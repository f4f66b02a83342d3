/-!
# Text operations

Splitting, searching and trimming over lists of characters, where the rules are easy to state and to
reason about. A string enters as `toList` and leaves through `String.ofList`.
-/

namespace HttpTest.Text

/-- The pieces between the separators, at least one of them. -/
def splitAtChar (separator : Char) : List Char → List (List Char)
  | [] => [[]]
  | c :: rest =>
    if c = separator then [] :: splitAtChar separator rest
    else match splitAtChar separator rest with
      | [] => [[c]]
      | piece :: pieces => (c :: piece) :: pieces

def joinWith (separator : List Char) : List (List Char) → List Char
  | [] => []
  | [piece] => piece
  | piece :: pieces => piece ++ separator ++ joinWith separator pieces

theorem splitAtChar_ne_nil (separator : Char) (text : List Char) :
    splitAtChar separator text ≠ [] := by
  cases text with
  | nil => simp [splitAtChar]
  | cons c rest =>
    unfold splitAtChar
    split
    · simp
    · split <;> simp

theorem splitAtChar_cons_ne {separator c : Char} (h : c ≠ separator) {rest piece : List Char}
    {pieces : List (List Char)} (hrest : splitAtChar separator rest = piece :: pieces) :
    splitAtChar separator (c :: rest) = (c :: piece) :: pieces := by
  simp [splitAtChar, h, hrest]

theorem splitAtChar_append (separator : Char) (first second : List Char) :
    splitAtChar separator (first ++ separator :: second)
      = splitAtChar separator first ++ splitAtChar separator second := by
  induction first with
  | nil => simp [splitAtChar]
  | cons c rest ih =>
    by_cases h : c = separator
    · simp [splitAtChar, h, ih]
    · obtain ⟨piece, pieces, hrest⟩ :=
        List.exists_cons_of_ne_nil (splitAtChar_ne_nil separator rest)
      have happend : splitAtChar separator (rest ++ separator :: second)
          = piece :: (pieces ++ splitAtChar separator second) := by
        rw [ih, hrest, List.cons_append]
      rw [splitAtChar_cons_ne h hrest, List.cons_append, List.cons_append,
        splitAtChar_cons_ne h happend]

theorem joinWith_cons_cons (separator first second : List Char) (pieces : List (List Char)) :
    joinWith separator (first :: second :: pieces)
      = first ++ separator ++ joinWith separator (second :: pieces) := rfl

/-- Nothing is lost between the pieces but the separators. -/
@[simp] theorem joinWith_splitAtChar (separator : Char) (text : List Char) :
    joinWith [separator] (splitAtChar separator text) = text := by
  induction text with
  | nil => rfl
  | cons c rest ih =>
    obtain ⟨first, pieces, hrest⟩ := List.exists_cons_of_ne_nil (splitAtChar_ne_nil separator rest)
    by_cases h : c = separator
    · subst h
      simp only [splitAtChar, if_true]
      rw [hrest] at ih ⊢
      simp [joinWith_cons_cons, ih]
    · rw [splitAtChar_cons_ne h hrest]
      rw [hrest] at ih
      cases pieces with
      | nil => simpa [joinWith] using ih
      | cons second pieces =>
        rw [joinWith_cons_cons] at ih ⊢
        rw [← ih, List.cons_append, List.cons_append]

theorem splitAtChar_of_not_mem {separator : Char} {text : List Char} (h : separator ∉ text) :
    splitAtChar separator text = [text] := by
  induction text with
  | nil => rfl
  | cons c rest ih =>
    have hc : c ≠ separator := fun e => h (by simp [e])
    exact splitAtChar_cons_ne hc (ih fun hm => h (by simp [hm]))

theorem splitAtChar_joinWith {separator : Char} {pieces : List (List Char)} (hne : pieces ≠ [])
    (h : ∀ piece ∈ pieces, separator ∉ piece) :
    splitAtChar separator (joinWith [separator] pieces) = pieces := by
  induction pieces with
  | nil => exact absurd rfl hne
  | cons first rest ih =>
    cases rest with
    | nil => exact splitAtChar_of_not_mem (h first (by simp))
    | cons second rest =>
      have hrest := ih (by simp) fun piece hp => h piece (List.mem_cons_of_mem _ hp)
      rw [joinWith_cons_cons, List.append_assoc, List.singleton_append, splitAtChar_append, hrest,
        splitAtChar_of_not_mem (h first (by simp))]
      rfl

def occursIn (needle : List Char) : List Char → Bool
  | [] => needle.isEmpty
  | c :: rest => needle.isPrefixOf (c :: rest) || occursIn needle rest

/-- What stands before and after the first occurrence of `separator`. -/
def splitOnce? (separator : List Char) : List Char → Option (List Char × List Char)
  | [] => if separator.isEmpty then some ([], []) else none
  | c :: rest =>
    if separator.isPrefixOf (c :: rest) then some ([], (c :: rest).drop separator.length)
    else (splitOnce? separator rest).map fun (before, after) => (c :: before, after)

/-- The characters with the Unicode property `White_Space`. -/
def isBlank (c : Char) : Bool :=
  let n := c.toNat
  (9 ≤ n && n ≤ 13) || n == 0x20 || n == 0x85 || n == 0xA0 || n == 0x1680
    || (0x2000 ≤ n && n ≤ 0x200A) || n == 0x2028 || n == 0x2029 || n == 0x202F || n == 0x205F
    || n == 0x3000

def trim (text : List Char) : List Char :=
  ((text.dropWhile isBlank).reverse.dropWhile isBlank).reverse

def dropCarriageReturn (line : List Char) : List Char :=
  if line.getLast? = some '\r' then line.dropLast else line

/-- The lines of a text. A line ends with a line feed, which a carriage return may precede; after
the last line feed there is a line only if something follows. -/
def lines (text : List Char) : List (List Char) :=
  match (splitAtChar '\n' text).reverse with
  | [] => []
  | last :: ended =>
    let ended := (ended.map dropCarriageReturn).reverse
    if last.isEmpty then ended else ended ++ [last]

/-- Equality up to the case of ASCII letters. -/
def equalIgnoringCase (a b : String) : Bool :=
  a.toList.map Char.toLower == b.toList.map Char.toLower

/-- A number in hexadecimal, lower case, without leading zeros. -/
def hexText (n : Nat) : List Char := Nat.toDigits 16 n

def hexDigit? (c : Char) : Option Nat :=
  if '0' ≤ c ∧ c ≤ '9' then some (c.toNat - '0'.toNat)
  else if 'a' ≤ c ∧ c ≤ 'f' then some (c.toNat - 'a'.toNat + 10)
  else if 'A' ≤ c ∧ c ≤ 'F' then some (c.toNat - 'A'.toNat + 10)
  else none

end HttpTest.Text
