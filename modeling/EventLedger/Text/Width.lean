import EventLedger.Text.CharWidth
import EventLedger.Text.Emoji

/-!
The columns that a text takes. Some characters are written as one with those that follow them, so
that a text is read from its end, and for each character it is known what it is followed by.
-/

namespace EventLedger.Text

inductive Joining where
  | lamed
  | ya
  | consonant
  | orkhonI
deriving DecidableEq, Repr

/-- What a character is followed by, as far as the two may be written as one. -/
inductive Following where
  | other
  | lineFeed
  | alef
  | letter (kind : Joining) (joined : Bool)
  | vowelBeforeYa
  | joinedConsonant
  | toneLetter
  | subscriptLetter
  | vowelE
  | vowelAi
  | skinTone
  | indicator
  | indicators
  | picture
  | joinedPicture
  | joinedKeycap
  | joinedIndicator
  | joinedFlag
  | joinedFlagAndIndicator
  | joinedTags (letters digits : Nat)
deriving DecidableEq, Repr

namespace Following

def isLigature : Following → Bool
  | alef | letter _ _ | vowelBeforeYa | joinedConsonant | toneLetter | subscriptLetter
  | vowelE | vowelAi => true
  | _ => false

def isTransparent : Following → Bool
  | letter _ _ | vowelBeforeYa | joinedConsonant | toneLetter | subscriptLetter => true
  | _ => false

def afterJoiner : Following → Following
  | letter kind _ => letter kind true
  | f => f

def continuesPicture : Following → Bool
  | joinedPicture | joinedKeycap => true
  | _ => false

end Following

def isArabicLam (c : Char) : Bool :=
  inRanges [(0x644, 0x644), (0x6B5, 0x6B8), (0x76A, 0x76A), (0x8A6, 0x8A6), (0x8C7, 0x8C7)] c

def isArabicAlef (c : Char) : Bool :=
  inRanges [(0x622, 0x623), (0x625, 0x625), (0x627, 0x627), (0x671, 0x673), (0x675, 0x675),
    (0x773, 0x774), (0x870, 0x882)] c

def isKhmerSubscript (c : Char) : Bool :=
  inRanges [(0x1780, 0x1782), (0x1784, 0x1787), (0x1789, 0x178C), (0x178E, 0x1793),
    (0x1795, 0x1798), (0x179B, 0x179D), (0x17A0, 0x17A0), (0x17A2, 0x17A2), (0x17A7, 0x17A7),
    (0x17AB, 0x17AC), (0x17AF, 0x17AF)] c

def isTifinaghConsonant (c : Char) : Bool := inRanges [(0x2D31, 0x2D65), (0x2D6F, 0x2D6F)] c

def isShapeless (c : Char) : Bool :=
  inRanges [(0x34F, 0x34F), (0x17B4, 0x17B5), (0x180B, 0x180D), (0x180F, 0x180F), (0x200D, 0x200D),
    (0xFE00, 0xFE0F), (0xE0100, 0xE01EF)] c

def isTagLetter (c : Char) : Bool := 0xE0061 ≤ c.toNat && c.toNat ≤ 0xE007A

def isTagDigit (c : Char) : Bool := 0xE0030 ≤ c.toNat && c.toNat ≤ 0xE0039

def Following.ofChar (c : Char) : Following :=
  if c = '\u05DC' then letter .lamed false
  else if c = '\u1A10' then letter .ya false
  else if isTifinaghConsonant c then letter .consonant false
  else if c.toNat = 0x10C03 then letter .orkhonI false
  else if c = '\uA4FC' ∨ c = '\uA4FD' then toneLetter
  else if c.toNat = 0x16D67 then vowelE
  else if c.toNat = 0x16D68 then vowelAi
  else if isArabicAlef c then alef
  else if isKhmerSubscript c then subscriptLetter
  else if isRegionalIndicator c then indicator
  else if isSkinTone c then skinTone
  else if isPicture c then picture
  else other

/-- The columns that a character adds to what follows it if the two are written as one, and what
    they are together. -/
def Following.combine (c : Char) : Following → Option (Int × Following)
  | alef =>
    if isArabicLam c then some (0, other) else if isJoinedAcross c then some (0, alef) else none
  | letter .lamed true => if c = '\u05D0' then some (0, other) else none
  | letter .ya true => if c = '\u1A17' then some (0, vowelBeforeYa) else none
  | letter .orkhonI true => if c.toNat = 0x10C32 then some (0, other) else none
  | letter .consonant joined =>
    if c = '\u2D7F' then some (1, joinedConsonant)
    else if joined && isTifinaghConsonant c then some (0, other)
    else none
  | vowelBeforeYa => if c = '\u1A15' then some (0, other) else none
  | joinedConsonant => if isTifinaghConsonant c then some (-1, other) else none
  | toneLetter => if '\uA4F8' ≤ c ∧ c ≤ '\uA4FB' then some (0, other) else none
  | subscriptLetter => if c = '\u17D2' then some (-1, other) else none
  | vowelE =>
    if c.toNat = 0x16D63 ∨ c.toNat = 0x16D69 then some (0, other)
    else if c.toNat = 0x16D67 then some (0, vowelE)
    else if c.toNat = 0x16D68 then some (1, vowelE)
    else none
  | vowelAi => if c.toNat = 0x16D63 then some (0, other) else none
  | skinTone =>
    if takesSkinTone c then some (0, picture)
    else if c = zeroWidthJoiner then some (0, joinedPicture)
    else none
  | indicator => if isRegionalIndicator c then some (1, indicators) else none
  | indicators =>
    if isRegionalIndicator c then some (1, indicators)
    else if c = zeroWidthJoiner then some (0, joinedPicture)
    else none
  | picture => if c = zeroWidthJoiner then some (0, joinedPicture) else none
  | joinedPicture =>
    if c = enclosingKeycap then some (0, joinedKeycap)
    else if isRegionalIndicator c then some (1, joinedIndicator)
    else if isSkinTone c then some (0, skinTone)
    else if c.toNat = 0xE007F then some (0, joinedTags 0 0)
    else if isPicture c then some (0, picture)
    else none
  | joinedIndicator => if isRegionalIndicator c then some (-1, joinedFlag) else none
  | joinedFlag =>
    if isRegionalIndicator c then some (3, joinedFlagAndIndicator)
    else if c = zeroWidthJoiner then some (0, joinedPicture)
    else none
  | joinedFlagAndIndicator =>
    if isRegionalIndicator c then some (-1, joinedFlag)
    else if c = zeroWidthJoiner then some (0, joinedPicture)
    else none
  | joinedTags letters digits =>
    if isTagLetter c && letters < 6 && digits == 0 then some (0, joinedTags (letters + 1) 0)
    else if isTagDigit c && (if digits = 0 then letters < 5 else digits < 3) then
      some (0, joinedTags 0 (digits + 1))
    else if c.toNat == 0x1F3F4 && (3 ≤ letters || digits == 3) then some (0, picture)
    else none
  | _ => none

structure Context where
  following : Following := .other
  asPicture : Bool := false
  asText : Bool := false

namespace Context

def passPictureSelector (x : Context) : Context :=
  if x.following.isLigature || x.following.continuesPicture then { x with asPicture := true }
  else { asPicture := true }

def passTextSelector (x : Context) : Context :=
  if x.following.isLigature then { x with asText := true } else { asText := true }

def withoutPicture (x : Context) : Context :=
  if x.asPicture then (if x.following.isLigature then { x with asPicture := false } else {}) else x

def pass (x : Context) (c : Char) : Int × Context :=
  if x.asPicture && takesSelector c then
    (if x.following.continuesPicture then 0 else 2, { following := .picture })
  else
    let x := x.withoutPicture
    if c.toNat ≤ 0xA0 then
      if c = '\n' then (1, { following := .lineFeed })
      else if c = '\r' ∧ x.following = .lineFeed then (0, {})
      else (1, {})
    else if c = pictureSelector then (0, x.passPictureSelector)
    else if c = textSelector then (0, x.passTextSelector)
    else if x.asText && narrowsAsText c then (1, {})
    else
      let f := x.following
      if f.isTransparent && isShapeless c then
        (0, { following := if c = zeroWidthJoiner then f.afterJoiner else f })
      else
        match f.combine c with
        | some (columns, together) => (columns, { following := together })
        | none => (charWidth c, { following := .ofChar c })

end Context

def columns : List Char → Int × Context
  | [] => (0, {})
  | c :: cs =>
    let (sum, x) := columns cs
    let (added, x) := x.pass c
    (sum + added, x)

def width (s : String) : Nat := (columns s.toList).1.toNat

end EventLedger.Text
