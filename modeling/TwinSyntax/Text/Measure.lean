import TwinSyntax.Text.Emoji
import TwinSyntax.Text.Width

/-!
# Widths of texts on a character screen

The width of a text is the sum of the widths of its characters, but for sequences that are drawn
narrower or wider than that.

**Line breaks.** A line feed takes no cell, nor does a carriage return in front of it. Other
controls take one.

**Pictures.** Two cells for a character with the selector for pictures behind it, for a picture with
a skin tone, and for pictures tied together by joiners; one for a picture with the selector for text
behind it.

**Letters.** One cell for the ligatures that scripts write: lam with alef, the joined letters of
Hebrew, Buginese, Tifinagh and Old Turkic, pairs of Lisu tone letters, and a Khmer consonant with a
subscript.

**Reading** (`Measure`). What a character adds depends on what stands behind it, so a text is read
from its end, and what has been read is summed up as a `Follower`.
-/

namespace TwinSyntax

/-- What stands behind a place in a text, as far as it bears on the width of what stands in front
of that place. A letter is `joined` if there is a joiner in front of it; a `joinedX` is `X` with a
joiner and a picture behind it. -/
inductive Follower where
  | nothing
  | lineFeed
  | modifier
  | regional
  | regionals
  | picture
  | joinedPicture
  | joinedKeycap
  | joinedRegional
  | joinedFlag
  | joinedFlagAndRegional
  | joinedTagLetters (count : Nat)
  | joinedTagDigits (count : Nat)
  | alef
  | hebrewLamed (joined : Bool)
  | bugineseYa (joined : Bool)
  | bugineseSignI
  | tifinaghConsonant (joined : Bool)
  | tifinaghJoiner
  | lisuTone
  | oldTurkicI (joined : Bool)
  | khmerConsonant
  deriving DecidableEq, Repr, Inhabited

/-- How the character in front of a selector is to be drawn. -/
inductive Selector where
  | text
  | picture
  deriving DecidableEq, Repr, Inhabited

/-! ## Letters that are written together -/

/-- The Arabic letters of the alef group. -/
def isAlef (c : Char) : Bool :=
  inRanges #[(0x622, 0x623), (0x625, 0x625), (0x627, 0x627), (0x671, 0x673), (0x675, 0x675),
    (0x773, 0x774), (0x870, 0x882)] c

/-- The Arabic letters of the lam group. -/
def isLam (c : Char) : Bool :=
  inRanges #[(0x644, 0x644), (0x6B5, 0x6B8), (0x76A, 0x76A), (0x8A6, 0x8A6), (0x8C7, 0x8C7)] c

/-- The Khmer letters that can be written as a subscript. -/
def isKhmerConsonant (c : Char) : Bool :=
  inRanges #[(0x1780, 0x1782), (0x1784, 0x1787), (0x1789, 0x178C), (0x178E, 0x1793),
    (0x1795, 0x1798), (0x179B, 0x179D), (0x17A0, 0x17A0), (0x17A2, 0x17A2), (0x17A7, 0x17A7),
    (0x17AB, 0x17AC), (0x17AF, 0x17AF)] c

/-- The consonants of Tifinagh. -/
def isTifinaghConsonant (c : Char) : Bool := inRanges #[(0x2D31, 0x2D65), (0x2D6F, 0x2D6F)] c

/-- The code points of characters that take no cell and yet keep the letters around them from being
joined. -/
def separatorRanges : Array (Nat × Nat) := #[
    (0x605, 0x605), (0x890, 0x891), (0x8E2, 0x8E2), (0x9BE, 0x9BE), (0x9D7, 0x9D7), (0xB3E, 0xB3E),
    (0xB57, 0xB57), (0xBBE, 0xBBE), (0xBD7, 0xBD7), (0xCC0, 0xCC0), (0xCC2, 0xCC2), (0xCC7, 0xCC8),
    (0xCCA, 0xCCB), (0xCD5, 0xCD6), (0xD3E, 0xD3E), (0xD4E, 0xD4E), (0xD57, 0xD57), (0xDCF, 0xDCF),
    (0xDDF, 0xDDF), (0x1160, 0x11FF), (0x180E, 0x180E), (0x1B35, 0x1B35), (0x1B3B, 0x1B3B),
    (0x1B3D, 0x1B3D), (0x1B43, 0x1B43), (0x200C, 0x200D), (0x2065, 0x2069), (0x302E, 0x302F),
    (0x3164, 0x3164), (0xA8FA, 0xA8FA), (0xD7B0, 0xD7C6), (0xD7CB, 0xD7FB), (0xFF9E, 0xFFA0),
    (0xFFF0, 0xFFF8), (0x111C2, 0x111C3), (0x1133E, 0x1133E), (0x11357, 0x11357),
    (0x114B0, 0x114B0), (0x114BD, 0x114BD), (0x115AF, 0x115AF), (0x11930, 0x11930),
    (0x1193F, 0x1193F), (0x11941, 0x11941), (0x11A3A, 0x11A3A), (0x11A84, 0x11A89),
    (0x11D46, 0x11D46), (0x11F02, 0x11F02), (0x1D165, 0x1D165), (0x1D16E, 0x1D172),
    (0xE0000, 0xE0000), (0xE0002, 0xE001F), (0xE0080, 0xE00FF), (0xE01F0, 0xE0FFF)]

/-- Whether `c` lets an Arabic letter in front of it join one behind it. -/
def isTransparent (c : Char) : Bool := isZeroWidth c && !inRanges separatorRanges c

/-- Whether `c` lets letters of other scripts be joined across it. A joiner aside, these are marks
that may be ignored when they are drawn. -/
def isIgnoredMark (c : Char) : Bool :=
  inRanges #[(0x34F, 0x34F), (0x17B4, 0x17B5), (0x180B, 0x180D), (0x180F, 0x180F),
    (0x200D, 0x200D), (0xFE00, 0xFE0F), (0xE0100, 0xE01EF)] c

/-- Whether `c` is a tag that stands for a small letter. -/
def isTagLetter (c : Char) : Bool := 0xE0061 ≤ c.toNat && c.toNat ≤ 0xE007A

/-- Whether `c` is a tag that stands for a digit. -/
def isTagDigit (c : Char) : Bool := 0xE0030 ≤ c.toNat && c.toNat ≤ 0xE0039

/-! ## What a character is to the one in front of it -/

namespace Follower

/-- What `c` is to the characters in front of it, whatever stands behind it. -/
def ofChar (c : Char) : Follower :=
  if c.toNat < 0x5DC then .nothing
  else if isPicture c then .picture
  else if isModifier c then .modifier
  else if isRegional c then .regional
  else if isAlef c then .alef
  else if isKhmerConsonant c then .khmerConsonant
  else if isTifinaghConsonant c then .tifinaghConsonant false
  else
    match c with
    | '\u05dc' => .hebrewLamed false
    | '\u1a10' => .bugineseYa false
    | '\ua4fc' | '\ua4fd' => .lisuTone
    | _ => if c.toNat = 0x10C03 then .oldTurkicI false else .nothing

/-- Whether it is a letter that is written together with others across ignored marks. -/
def isLetter : Follower → Bool
  | .hebrewLamed _ | .bugineseYa _ | .bugineseSignI | .tifinaghConsonant _ | .tifinaghJoiner
  | .lisuTone | .oldTurkicI _ | .khmerConsonant => true
  | _ => false

/-- The letter with a joiner in front of it. -/
def withJoiner : Follower → Follower
  | .hebrewLamed _ => .hebrewLamed true
  | .bugineseYa _ => .bugineseYa true
  | .tifinaghConsonant _ => .tifinaghConsonant true
  | .oldTurkicI _ => .oldTurkicI true
  | f => f

/-- Whether a picture in front of it, marked as one by a selector, is tied to the picture that it
ends in. A selector leaves such a follower as it is. -/
def awaitsPicture : Follower → Bool
  | .joinedPicture | .joinedKeycap => true
  | _ => false

/-- What is left of it when there is a selector in front of it that does not bear on it. -/
def behindSelector (f : Follower) : Follower :=
  if f.isLetter || f = .alef then f else .nothing

/-- What `c` adds to the width in front of `f`, and what stands behind a place in front of `c`, if
`c` and `f` are drawn as one. Tied pictures take the two cells of the last of them, and a flag is
two regional indicators of one cell each. -/
def meet? (f : Follower) (c : Char) : Option (Int × Follower) :=
  match f with
  | .nothing | .lineFeed | .joinedKeycap => none
  | .modifier =>
    if isModifierBase c then some (0, .picture)
    else if c = '\u200d' then some (0, .joinedPicture)
    else none
  | .regional => if isRegional c then some (1, .regionals) else none
  | .regionals =>
    if isRegional c then some (1, .regionals)
    else if c = '\u200d' then some (0, .joinedPicture)
    else none
  | .picture => if c = '\u200d' then some (0, .joinedPicture) else none
  | .joinedPicture =>
    if c = '\u20e3' then some (0, .joinedKeycap)
    else if isRegional c then some (1, .joinedRegional)
    else if isModifier c then some (0, .modifier)
    else if c.toNat = 0xE007F then some (0, .joinedTagLetters 0)
    else if isPicture c then some (0, .picture)
    else none
  | .joinedRegional => if isRegional c then some (-1, .joinedFlag) else none
  | .joinedFlag =>
    if isRegional c then some (3, .joinedFlagAndRegional)
    else if c = '\u200d' then some (0, .joinedPicture)
    else none
  | .joinedFlagAndRegional =>
    if isRegional c then some (-1, .joinedFlag)
    else if c = '\u200d' then some (0, .joinedPicture)
    else none
  | .joinedTagLetters count =>
    if isTagLetter c && count < 6 then some (0, .joinedTagLetters (count + 1))
    else if isTagDigit c && count < 5 then some (0, .joinedTagDigits 1)
    else if c.toNat = 0x1F3F4 && 3 ≤ count then some (0, .picture)
    else none
  | .joinedTagDigits count =>
    if isTagDigit c && count < 3 then some (0, .joinedTagDigits (count + 1))
    else if c.toNat = 0x1F3F4 && count = 3 then some (0, .picture)
    else none
  | .alef =>
    if isLam c then some (0, .nothing)
    else if isTransparent c then some (0, .alef)
    else none
  | .hebrewLamed joined => if joined && c = '\u05d0' then some (0, .nothing) else none
  | .bugineseYa joined => if joined && c = '\u1a17' then some (0, .bugineseSignI) else none
  | .bugineseSignI => if c = '\u1a15' then some (0, .nothing) else none
  | .tifinaghConsonant joined =>
    if c = '\u2d7f' then some (1, .tifinaghJoiner)
    else if joined && isTifinaghConsonant c then some (0, .nothing)
    else none
  | .tifinaghJoiner => if isTifinaghConsonant c then some (-1, .nothing) else none
  | .lisuTone => if '\ua4f8' ≤ c && c ≤ '\ua4fb' then some (0, .nothing) else none
  | .oldTurkicI joined => if joined && c.toNat = 0x10C32 then some (0, .nothing) else none
  | .khmerConsonant => if c = '\u17d2' then some (-1, .nothing) else none

end Follower

/-! ## Reading a text from its end -/

/-- What has been read of a text: the cells that it takes, what it is to the characters in front of
it, and the selector that it begins with. -/
structure Measure where
  width : Int
  follower : Follower
  selector? : Option Selector
  deriving DecidableEq, Repr, Inhabited

namespace Measure

/-- Nothing has been read. -/
def empty : Measure := ⟨0, .nothing, none⟩

/-- Another `width` cells, with `follower` in front now. -/
def put (m : Measure) (width : Int) (follower : Follower) : Measure :=
  ⟨m.width + width, follower, none⟩

/-- Reads a character that has no selector for pictures behind it, or one that does not bear on it.
`follower` is what stands behind the character. -/
def readPlain (m : Measure) (follower : Follower) (c : Char) : Measure :=
  if c = '\n' then m.put 0 .lineFeed
  else if c = '\r' && follower = .lineFeed then m.put 0 .nothing
  else if c.toNat ≤ 0xA0 then m.put 1 .nothing
  else if c = '\ufe0f' then
    ⟨m.width, if follower.awaitsPicture then follower else follower.behindSelector, some .picture⟩
  else if c = '\ufe0e' then ⟨m.width, follower.behindSelector, some .text⟩
  else if m.selector? = some .text && takesTextSelector c then m.put 1 .nothing
  else if follower.isLetter && isIgnoredMark c then
    m.put 0 (if c = '\u200d' then follower.withJoiner else follower)
  else
    match follower.meet? c with
    | some (width, follower) => m.put width follower
    | none => m.put (cellWidth c) (.ofChar c)

/-- Reads the character in front of what has been read. -/
def read (m : Measure) (c : Char) : Measure :=
  if m.selector? = some .picture then
    if takesPictureSelector c then m.put (if m.follower.awaitsPicture then 0 else 2) .picture
    else m.readPlain m.follower.behindSelector c
  else m.readPlain m.follower c

end Measure

/-- The number of cells that a text takes. -/
def textWidth (text : String) : Nat :=
  (text.toList.reverse.foldl Measure.read .empty).width.toNat

example : textWidth "a\tb\n" = 3 := by decide +kernel

example : Follower.meet? .lisuTone '\ua4f8' = some (0, .nothing) := by decide

end TwinSyntax
