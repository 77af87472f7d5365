import ContextFree.Text.Property

/-! The number of terminal cells that a text takes, read from its last character to its first: a
character's cells depend on what follows it. -/
namespace ContextFree.Text

/-- The last letter of a ligature, or its last two letters. -/
inductive LigatureEnd where
  /-- The second letter of the Arabic lam with alef. -/
  | alef
  /-- The second letter of the Hebrew alef with lamed. -/
  | lamed
  /-- The Khmer letter under another. -/
  | subscript
  /-- The third letter of the Buginese a with i and ya. -/
  | ya
  /-- The last two letters of the Buginese a with i and ya. -/
  | vowelYa
  /-- The second letter of a Tifinagh pair. -/
  | consonant
  /-- The second letter of a Tifinagh pair, with the joining sign before it. -/
  | joinedConsonant
  /-- The second letter of a Lisu pair. -/
  | tone
  /-- The second letter of the Old Turkic pair. -/
  | orkhonI
deriving DecidableEq

/-- What the characters after the current one form, for as much as a character before them can join. -/
inductive Form where
  | none
  /-- An emoji with what is joined to it. -/
  | emoji
  /-- A skin tone. -/
  | modifier
  /-- One regional indicator. -/
  | regional
  /-- Two or more regional indicators. -/
  | regionals
  /-- A joiner before an emoji. -/
  | joiner
  /-- A keycap before a joiner. -/
  | keycap
  /-- One regional indicator before a joiner. -/
  | joinedRegional
  /-- Pairs of regional indicators before a joiner. -/
  | joinedPairs
  /-- A regional indicator, and pairs of them before a joiner. -/
  | joinedPairsAndOne
  /-- Tag letters up to the last tag before a joiner. -/
  | tagLetters (count : Nat)
  /-- Tag digits, perhaps with letters after them, up to the last tag before a joiner. -/
  | tagDigits (count : Nat)
  /-- The end of a ligature, perhaps with a joiner before it. -/
  | ligature (last : LigatureEnd) (joined : Bool)
deriving DecidableEq

def Form.isLigature : Form → Bool
  | .ligature _ _ => true
  | _ => false

def Form.takesSelected : Form → Bool
  | .joiner | .keycap => true
  | _ => false

/-- A form, with the style selectors directly before it. -/
structure Follower where
  form : Form
  emojiStyle : Bool
  textStyle : Bool
deriving DecidableEq

namespace Follower

def ofForm (form : Form) : Follower :=
  ⟨form, false, false⟩

/-- The emoji selector hides a form that it cannot be part of. -/
def selectEmoji (f : Follower) : Follower :=
  if f.form.isLigature || f.form.takesSelected then { f with emojiStyle := true }
  else ⟨.none, true, false⟩

/-- The text selector hides all forms but ligatures. -/
def selectText (f : Follower) : Follower :=
  if f.form.isLigature then { f with textStyle := true } else ⟨.none, false, true⟩

/-- What remains before a character that no emoji selector applies to: the selector breaks joined
emoji, but no ligature. -/
def withoutEmojiStyle (f : Follower) : Follower :=
  if !f.emojiStyle then f
  else if f.form.isLigature then { f with emojiStyle := false }
  else ofForm .none

end Follower

/-- Whether Arabic letters join across a character. -/
def isTransparent (c : Char) : Bool :=
  zeroWidth.contains c && !parting.contains c

/-- The cells that a character adds to the end of a ligature, and what the two form; none if the
character is no part of the ligature. Joiners and ignorable marks may stand in all ligatures but the
Arabic one. -/
def joinLigature? (c : Char) (last : LigatureEnd) (joined : Bool) : Option (Int × Form) :=
  if last ≠ .alef && c = '\u200d' then some (0, .ligature last true)
  else if last ≠ .alef && ignorableMark.contains c then some (0, .ligature last joined)
  else match last with
    | .alef =>
      if lam.contains c then some (0, .none)
      else if isTransparent c then some (0, .ligature .alef joined)
      else none
    | .lamed => if joined && c = '\u05d0' then some (0, .none) else none
    | .subscript => if c = '\u17d2' then some (-1, .none) else none
    | .ya => if joined && c = '\u1a17' then some (0, .ligature .vowelYa true) else none
    | .vowelYa => if c = '\u1a15' then some (0, .none) else none
    | .consonant =>
      if c = '\u2d7f' then some (1, .ligature .joinedConsonant true)
      else if joined && tifinagh.contains c then some (0, .none)
      else none
    | .joinedConsonant => if tifinagh.contains c then some (-1, .none) else none
    | .tone => if lisuFirstTone.contains c then some (0, .none) else none
    | .orkhonI => if joined && c.toNat = 0x10C32 then some (0, .none) else none

/-- The cells that a character adds to a form that it joins, and what the two form. -/
def join? (c : Char) : Form → Option (Int × Form)
  | .none | .keycap => none
  | .emoji => if c = '\u200d' then some (0, .joiner) else none
  | .modifier =>
    if emojiModifierBase.contains c then some (0, .emoji)
    else if c = '\u200d' then some (0, .joiner)
    else none
  | .regional => if regionalIndicator.contains c then some (1, .regionals) else none
  | .regionals =>
    if regionalIndicator.contains c then some (1, .regionals)
    else if c = '\u200d' then some (0, .joiner)
    else none
  | .joiner =>
    if c = '\u20e3' then some (0, .keycap)
    else if regionalIndicator.contains c then some (1, .joinedRegional)
    else if emojiModifier.contains c then some (0, .modifier)
    else if c.toNat = 0xE007F then some (0, .tagLetters 0)
    else if emojiPresentation.contains c then some (0, .emoji)
    else none
  | .joinedRegional => if regionalIndicator.contains c then some (-1, .joinedPairs) else none
  | .joinedPairs =>
    if regionalIndicator.contains c then some (3, .joinedPairsAndOne)
    else if c = '\u200d' then some (0, .joiner)
    else none
  | .joinedPairsAndOne =>
    if regionalIndicator.contains c then some (-1, .joinedPairs)
    else if c = '\u200d' then some (0, .joiner)
    else none
  | .tagLetters n =>
    if tagLetter.contains c && n < 6 then some (0, .tagLetters (n + 1))
    else if tagDigit.contains c && n < 5 then some (0, .tagDigits 1)
    else if c.toNat = 0x1F3F4 && 3 ≤ n then some (0, .emoji)
    else none
  | .tagDigits n =>
    if tagDigit.contains c && n < 3 then some (0, .tagDigits (n + 1))
    else if c.toNat = 0x1F3F4 && n = 3 then some (0, .emoji)
    else none
  | .ligature last joined => joinLigature? c last joined

def cellsAlone (c : Char) : Nat :=
  if c = '\u17d8' then 3
  else if c = '\u17a4' then 2
  else if zeroWidth.contains c then 0
  else if wide.contains c then 2
  else 1

def formAlone (c : Char) : Form :=
  if emojiModifier.contains c then .modifier
  else if emojiPresentation.contains c then .emoji
  else if regionalIndicator.contains c then .regional
  else if alef.contains c then .ligature .alef false
  else if c = '\u05dc' then .ligature .lamed false
  else if khmerSubscript.contains c then .ligature .subscript false
  else if c = '\u1a10' then .ligature .ya false
  else if tifinagh.contains c then .ligature .consonant false
  else if lisuSecondTone.contains c then .ligature .tone false
  else if c.toNat = 0x10C03 then .ligature .orkhonI false
  else .none

/-- The cells of a character that no emoji selector applies to. Controls take one cell, like the rest
of the first 160 code points. -/
def plainCells (c : Char) (f : Follower) : Int × Follower :=
  if c.toNat ≤ 0xA0 then (1, .ofForm .none)
  else if c = '\ufe0f' then (0, f.selectEmoji)
  else if c = '\ufe0e' then (0, f.selectText)
  else if f.textStyle && textSelectable.contains c then (1, .ofForm .none)
  else match join? c f.form with
    | some (n, form) => (n, .ofForm form)
    | none => (cellsAlone c, .ofForm (formAlone c))

/-- The cells that a character adds to those of the text after it, and what it forms with that. It
may take a cell away: a pair of regional indicators before a joiner is an emoji without cells of its
own. -/
def cells (c : Char) (f : Follower) : Int × Follower :=
  if f.emojiStyle && emojiSelectable.contains c then
    (if f.form.takesSelected then 0 else 2, .ofForm .emoji)
  else plainCells c f.withoutEmojiStyle

def measure : List Char → Int × Follower
  | [] => (0, .ofForm .none)
  | c :: cs =>
    let (n, f) := measure cs
    let (m, g) := cells c f
    (n + m, g)

def width (s : String) : Nat :=
  (measure s.toList).1.toNat

end ContextFree.Text
