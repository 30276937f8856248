import ModalEditor.Text.Cluster
import ModalEditor.Unicode.CellWidth
import ModalEditor.Unicode.Emoji
import ModalEditor.Unicode.Joining

/-! How many terminal cells a text takes. A character has a width of its own, but ligatures, emoji
sequences and variation selectors give it another one before certain characters, so a text is
measured from its end to its start. -/

namespace ModalEditor

open Unicode

namespace Width

/-- What the measured characters begin with, as far as it matters to the one before them. -/
inductive Follower
  | plain
  | lineFeed
  | skinTone
  | emoji
  | indicator
  | indicators
  | joinedEmoji
  | joinedKeycap
  | joinedIndicator
  | joinedIndicators (odd : Bool)
  | joinedTags (letters digits : Nat)
  | alef
  | lamed (joined : Bool)
  | ya (joined : Bool)
  | vowelBeforeYa
  | tifinagh (joined : Bool)
  | tifinaghJoiner
  | lisuTone
  | orkhonI (joined : Bool)
  | khmerLetter
  | kiratE
  | kiratAi
  deriving DecidableEq, Repr

inductive Selector
  | second
  | text
  | emoji
  deriving DecidableEq, Repr

structure Right where
  follower : Follower
  selector : Option Selector
  deriving DecidableEq, Repr

namespace Follower

def seesThrough : Follower → Bool
  | lamed _ | ya _ | vowelBeforeYa | tifinagh _ | tifinaghJoiner | lisuTone | orkhonI _
  | khmerLetter => true
  | _ => false

def join : Follower → Follower
  | lamed _ => lamed true
  | ya _ => ya true
  | tifinagh _ => tifinagh true
  | orkhonI _ => orkhonI true
  | f => f

/-- Whether the follower still matters to what stands before the selector. -/
def survives (f : Follower) : Selector → Bool
  | .emoji => f.seesThrough || f = alef || f = joinedEmoji || f = joinedKeycap
  | _ => f.seesThrough || f = alef

end Follower

namespace Right

def plain : Right := ⟨.plain, none⟩

def of (f : Follower) : Right := ⟨f, none⟩

def select (r : Right) (s : Selector) : Right :=
  ⟨if r.follower.survives s then r.follower else .plain, some s⟩

def unselect (r : Right) : Right :=
  match r.selector with
  | none => r
  | some _ => ⟨if r.follower.survives .text then r.follower else .plain, none⟩

end Right

def isVariationBase (c : Char) : Bool := variationBaseRanges.contains c

/-- Emoji that a text selector makes narrow; enclosed ideographs stay wide. -/
def isNarrowingBase (c : Char) : Bool :=
  variationBaseRanges.contains c && emojiPresentationRanges.contains c &&
    !(0x1F200 ≤ c.toNat && c.toNat ≤ 0x1F2FF)

def isQuotationMark (c : Char) : Bool :=
  c.toNat ∈ [0x2018, 0x2019, 0x201C, 0x201D]

def isIgnorableMark (c : Char) : Bool :=
  let n := c.toNat
  n == 0x34F || 0x17B4 ≤ n && n ≤ 0x17B5 || 0x180B ≤ n && n ≤ 0x180D || n == 0x180F ||
    0xFE00 ≤ n && n ≤ 0xFE0F || 0xE0100 ≤ n && n ≤ 0xE01EF

def isTransparent (c : Char) : Bool :=
  isGraphemeExtend c && !spacingExtenderRanges.contains c || transparentFormatRanges.contains c

def isLam (n : Nat) : Bool :=
  n == 0x644 || 0x6B5 ≤ n && n ≤ 0x6B8 || n == 0x76A || n == 0x8A6 || n == 0x8C7

def isAlef (n : Nat) : Bool :=
  n == 0x622 || n == 0x623 || n == 0x625 || n == 0x627 || 0x671 ≤ n && n ≤ 0x673 || n == 0x675 ||
    n == 0x773 || n == 0x774 || 0x870 ≤ n && n ≤ 0x882

def isTifinaghConsonant (n : Nat) : Bool :=
  0x2D31 ≤ n && n ≤ 0x2D65 || n == 0x2D6F

def isKhmerSubscript (n : Nat) : Bool :=
  0x1780 ≤ n && n ≤ 0x1782 || 0x1784 ≤ n && n ≤ 0x1787 || 0x1789 ≤ n && n ≤ 0x178C ||
    0x178E ≤ n && n ≤ 0x1793 || 0x1795 ≤ n && n ≤ 0x1798 || 0x179B ≤ n && n ≤ 0x179D ||
    n == 0x17A0 || n == 0x17A2 || n == 0x17A7 || 0x17AB ≤ n && n ≤ 0x17AC || n == 0x17AF

def isIndicator (n : Nat) : Bool := 0x1F1E6 ≤ n && n ≤ 0x1F1FF

def isSkinTone (n : Nat) : Bool := 0x1F3FB ≤ n && n ≤ 0x1F3FF

def alone (c : Char) : Nat × Follower :=
  let n := c.toNat
  if n = 0x0A then (1, .lineFeed)
  else if n ≤ 0xA0 then (1, .plain)
  else if n = 0x5DC then (1, .lamed false)
  else if isAlef n then (1, .alef)
  else if isKhmerSubscript n then (1, .khmerLetter)
  else if n = 0x17D8 then (3, .plain)
  else if n = 0x1A10 then (1, .ya false)
  else if isTifinaghConsonant n then (1, .tifinagh false)
  else if n = 0xA4FC ∨ n = 0xA4FD then (1, .lisuTone)
  else if n = 0x10C03 then (1, .orkhonI false)
  else if n = 0x16D67 then (1, .kiratE)
  else if n = 0x16D68 then (1, .kiratAi)
  else if isIndicator n then (1, .indicator)
  else if isSkinTone n then (2, .skinTone)
  else if emojiPresentationRanges.contains c then (2, .emoji)
  else if wideRanges.contains c then (2, .plain)
  else if n ≠ 0x2D7F ∧ isGraphemeExtend c ∨ emptyRanges.contains c then (0, .plain)
  else (1, .plain)

def sequence? (c : Char) (f : Follower) : Option (Int × Follower) :=
  let n := c.toNat
  match f with
  | .lineFeed => if n = 0x0D then some (0, .plain) else none
  | .alef =>
    if isLam n then some (0, .plain)
    else if isTransparent c then some (0, .alef)
    else none
  | .lamed true => if n = 0x5D0 then some (0, .plain) else none
  | .khmerLetter => if n = 0x17D2 then some (-1, .plain) else none
  | .ya true => if n = 0x1A17 then some (0, .vowelBeforeYa) else none
  | .vowelBeforeYa => if n = 0x1A15 then some (0, .plain) else none
  | .tifinagh joined =>
    if n = 0x2D7F then some (1, .tifinaghJoiner)
    else if joined ∧ isTifinaghConsonant n then some (0, .plain)
    else none
  | .tifinaghJoiner => if isTifinaghConsonant n then some (-1, .plain) else none
  | .lisuTone => if 0xA4F8 ≤ n ∧ n ≤ 0xA4FB then some (0, .plain) else none
  | .orkhonI true => if n = 0x10C32 then some (0, .plain) else none
  | .skinTone =>
    if emojiModifierBaseRanges.contains c then some (0, .emoji)
    else if n = 0x200D then some (0, .joinedEmoji)
    else none
  | .indicator => if isIndicator n then some (1, .indicators) else none
  | .indicators =>
    if isIndicator n then some (1, .indicators)
    else if n = 0x200D then some (0, .joinedEmoji)
    else none
  | .emoji => if n = 0x200D then some (0, .joinedEmoji) else none
  | .joinedEmoji =>
    if n = 0x20E3 then some (0, .joinedKeycap)
    else if isIndicator n then some (1, .joinedIndicator)
    else if isSkinTone n then some (0, .skinTone)
    else if n = 0xE007F then some (0, .joinedTags 0 0)
    else if (alone c).2 = .emoji then some (0, .emoji)
    else none
  | .joinedIndicator => if isIndicator n then some (-1, .joinedIndicators false) else none
  | .joinedIndicators odd =>
    if isIndicator n then some (if odd then -1 else 3, .joinedIndicators !odd)
    else if n = 0x200D then some (0, .joinedEmoji)
    else none
  | .joinedTags letters digits =>
    if 0xE0061 ≤ n ∧ n ≤ 0xE007A ∧ digits = 0 ∧ letters < 6 then
      some (0, .joinedTags (letters + 1) 0)
    else if 0xE0030 ≤ n ∧ n ≤ 0xE0039 ∧ letters ≤ 4 ∧ digits < 3 then
      some (0, .joinedTags 0 (digits + 1))
    else if n = 0x1F3F4 ∧ (3 ≤ letters ∨ digits = 3) then some (0, .emoji)
    else none
  | .kiratE =>
    if n = 0x16D63 ∨ n = 0x16D69 then some (0, .plain)
    else if n = 0x16D67 then some (0, .kiratAi)
    else if n = 0x16D68 then some (1, .kiratE)
    else none
  | .kiratAi => if n = 0x16D63 then some (0, .plain) else none
  | .plain | .lamed false | .ya false | .orkhonI false | .joinedKeycap => none

def selected? (c : Char) (r : Right) : Option (Int × Follower) :=
  match r.selector with
  | some .emoji =>
    if isVariationBase c then
      some (if r.follower = .joinedEmoji ∨ r.follower = .joinedKeycap then 0 else 2, .emoji)
    else none
  | some .text => if isNarrowingBase c then some (1, .plain) else none
  | some .second => if isQuotationMark c then some (2, .plain) else none
  | none => none

/-- The cells that a character adds before the characters to its right, and what stands to the
right of the next one. -/
def step (c : Char) (r : Right) : Int × Right :=
  match selected? c r with
  | some (w, f) => (w, .of f)
  | none =>
    let r := r.unselect
    if c.toNat = 0xFE0F then (0, r.select .emoji)
    else if c.toNat = 0xFE0E then (0, r.select .text)
    else if c.toNat = 0xFE01 then (0, r.select .second)
    else if r.follower.seesThrough && c.toNat == 0x200D then (0, .of r.follower.join)
    else if r.follower.seesThrough && isIgnorableMark c then (0, r)
    else match sequence? c r.follower with
      | some (w, f) => (w, .of f)
      | none => ((alone c).1, .of (alone c).2)

def measure : Text → Int × Right
  | [] => (0, .plain)
  | c :: cs =>
    let (w, r) := measure cs
    let (v, r) := step c r
    (v + w, r)

end Width

namespace Text

def width (t : Text) : Nat :=
  (Width.measure t).1.toNat

end Text

end ModalEditor
