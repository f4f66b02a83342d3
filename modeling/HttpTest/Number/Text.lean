import HttpTest.Number.Shortest

/-!
# Numbers as text

The written forms of a double share the shortest digits and differ in one record of decisions,
`FloatLayout`. Reading accepts a decimal numeral with optional fraction and exponent, and the names
of the values that are not finite.
-/

namespace HttpTest.Number

structure FloatLayout where
  /-- The least power of ten that is written positionally, if there is one. -/
  positionalFrom : Option Int
  /-- The first power of ten that is no longer written positionally, if there is one. -/
  positionalBelow : Option Int
  /-- Whether an integer is written with a fraction of one zero. -/
  keepFraction : Bool
  /-- Whether a positive exponent has a sign. -/
  plusSign : Bool
  tie : Tie

namespace FloatLayout

/-- Exact text: an integer keeps `.0`, and an exponent is used below `1e-4` and from `1e16` on. -/
def exact : FloatLayout := ⟨some (-4), some 16, true, false, .up⟩

/-- Plain text: never an exponent, and no fraction where there is none. -/
def plain : FloatLayout := ⟨none, none, false, false, .up⟩

def json : FloatLayout := ⟨some (-5), some 16, true, true, .even⟩

end FloatLayout

def natText (n : Nat) : List Char := Nat.toDigits 10 n

/-- The digits with an exponent, as in `1.5e-7`. -/
def scientificText (layout : FloatLayout) (digits : List Char) (place : Int) : List Char :=
  let fraction := match digits.tail with
    | [] => []
    | rest => '.' :: rest
  let sign := if place < 0 then ['-'] else if layout.plusSign then ['+'] else []
  digits.take 1 ++ fraction ++ 'e' :: sign ++ natText place.natAbs

def positionalText (layout : FloatLayout) (digits : List Char) (exponent : Int) : List Char :=
  if 0 ≤ exponent then
    digits ++ List.replicate exponent.toNat '0' ++ (if layout.keepFraction then ['.', '0'] else [])
  else
    let places := (-exponent).toNat
    let padded := List.replicate (places + 1 - digits.length) '0' ++ digits
    padded.take (padded.length - places) ++ '.' :: padded.drop (padded.length - places)

def Decimal.trim (d : Decimal) : (fuel : Nat) → Decimal
  | 0 => d
  | fuel + 1 =>
    if d.digits % 10 = 0 ∧ d.digits ≠ 0 then
      Decimal.trim ⟨d.digits / 10, d.exponent + 1⟩ fuel
    else d

def Decimal.text (layout : FloatLayout) (d : Decimal) : List Char :=
  let d := d.trim 20
  let digits := natText d.digits
  let place := d.exponent + (digits.length : Int) - 1
  let positional := layout.positionalFrom.all (· ≤ place) && layout.positionalBelow.all (place < ·)
  if positional then positionalText layout digits d.exponent else scientificText layout digits place

def Binary64.text (layout : FloatLayout) : Binary64 → List Char
  | .nan => ['N', 'a', 'N']
  | .infinite negative => if negative then ['-', 'i', 'n', 'f'] else ['i', 'n', 'f']
  | .finite negative mantissa exponent _ =>
      let sign := if negative then ['-'] else []
      let magnitude :=
        if mantissa = 0 then (if layout.keepFraction then ['0', '.', '0'] else ['0'])
        else (shortest layout.tie mantissa exponent).text layout
      sign ++ magnitude

def intText (i : Int) : List Char :=
  if i < 0 then '-' :: natText i.natAbs else natText i.natAbs

def digitsValue (digits : List Char) : Nat :=
  digits.foldl (fun n c => n * 10 + (c.toNat - '0'.toNat)) 0

def readNat? (text : List Char) : Option Nat :=
  if !text.isEmpty && text.all Char.isDigit then some (digitsValue text) else none

/-- An integer numeral: digits, with an optional sign of either kind before them. -/
def readInt? : List Char → Option Int
  | '-' :: rest => (readNat? rest).map fun n => -(n : Int)
  | '+' :: rest => (readNat? rest).map fun n => (n : Int)
  | text => (readNat? text).map fun n => (n : Int)

def readUnsigned? : List Char → Option Nat
  | '+' :: rest => readNat? rest
  | text => readNat? text

def readInt64? (text : List Char) : Option Int64 :=
  match readInt? text with
  | none => none
  | some i => if -2 ^ 63 ≤ i ∧ i < 2 ^ 63 then some (Int64.ofInt i) else none

/-- An exponent part, `e` or `E` with an integer numeral; nothing is the exponent zero. -/
def readExponent? : List Char → Option Int
  | [] => some 0
  | c :: rest => if c = 'e' ∨ c = 'E' then readInt? rest else none

/-- A decimal numeral without sign: digits with an optional point among or around them, and an
optional exponent. -/
def readDecimal? (text : List Char) : Option Decimal :=
  let whole := text.takeWhile Char.isDigit
  let rest := text.dropWhile Char.isDigit
  match rest with
  | '.' :: rest =>
    let fraction := rest.takeWhile Char.isDigit
    if whole.isEmpty && fraction.isEmpty then none
    else (readExponent? (rest.dropWhile Char.isDigit)).map fun exponent =>
      ⟨digitsValue (whole ++ fraction), exponent - (fraction.length : Int)⟩
  | rest =>
    if whole.isEmpty then none
    else (readExponent? rest).map fun exponent => ⟨digitsValue whole, exponent⟩

/-- A decimal as a ratio of naturals; `none` stands for a magnitude beyond every format, and a
magnitude below every format is zero. -/
def Decimal.ratio? (d : Decimal) : Option (Nat × Nat) :=
  if d.digits = 0 then some (0, 1)
  else
    let place := d.exponent + (Nat.log2 d.digits : Int) * 30103 / 100000
    if 400 < place then none
    else if place < -400 then some (0, 1)
    else if 0 ≤ d.exponent then some (d.digits * 10 ^ d.exponent.toNat, 1)
    else some (d.digits, 10 ^ (-d.exponent).toNat)

/-- The names of the values that are not finite, in any mix of case. -/
def readSpecial? (negative : Bool) (text : List Char) : Option Binary64 :=
  let name := text.map Char.toLower
  if name = ['i', 'n', 'f'] ∨ name = ['i', 'n', 'f', 'i', 'n', 'i', 't', 'y'] then
    some (.infinite negative)
  else if name = ['n', 'a', 'n'] then some .nan
  else none

/-- A number with an optional sign, rounded by `round` from its exact ratio. -/
def readFloatWith? (round : Bool → Nat → Nat → Binary64) (text : List Char) : Option Binary64 :=
  let (negative, text) := match text with
    | '-' :: rest => (true, rest)
    | '+' :: rest => (false, rest)
    | text => (false, text)
  match readDecimal? text with
  | some d =>
    match d.ratio? with
    | some (num, den) => some (round negative num den)
    | none => some (.infinite negative)
  | none => readSpecial? negative text

def readFloat? (text : List Char) : Option Binary64 := readFloatWith? Binary64.ofRatio text

def readSingle? (text : List Char) : Option Binary64 := readFloatWith? Binary64.ofRatioSingle text

end HttpTest.Number
