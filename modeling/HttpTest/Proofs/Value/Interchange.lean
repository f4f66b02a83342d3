import HttpTest.Proofs.Value.Number

/-!
# Values that can change places

An equality check coerces the actual value and not the expected one, so it may pass in one direction
and not in the other. What decides are the scalars: if a value is accepted, it accepts in turn
exactly if each two scalars at the same place are `interchangeable`, which is a matter of their kinds
and of few values (`Check.equal_symm_iff`).
-/

namespace HttpTest

open Number (Binary64 Spells)

namespace Number

namespace Binary64

theorem isZero_iff (x : Binary64) : x.isZero = true ↔ (zero false).eq x = true := by
  cases x with
  | nan => exact iff_of_false nofun nofun
  | infinite negative => exact iff_of_false nofun nofun
  | finite negative mantissa exponent canonical =>
    show (mantissa == 0) = true ↔ (0 == mantissa && -1074 == exponent && _) = true
    constructor
    · intro h
      have hm : mantissa = 0 := eq_of_beq h
      -- a zero has the least exponent, since no bit of it is set
      obtain ⟨-, -, -, hlarge | hexponent⟩ := canonical
      · omega
      · subst hm hexponent
        simp
    · intro h
      simp only [Bool.and_eq_true, beq_iff_eq] at h
      exact beq_iff_eq.2 h.1.1.symm

theorem isZero_of_one_eq {x : Binary64} (h : one.eq x = true) : x.isZero = false := by
  have hone : one.Denotes (1 : Int) := toInt?_eq_some_iff.1 (by decide)
  have hzero : (zero false).Denotes 0 := denotes_finite_iff.2 (by simp)
  rw [← Bool.not_eq_true, isZero_iff, eq_iff_denotes hzero]
  intro hx
  have heq := hx.unique ((eq_iff_denotes hone x).1 h)
  norm_num at heq

/-- The double for an integer is equal to every double that becomes that integer. -/
theorem ofInt_eq_of_toInt64? {x : Binary64} {i : Int64} (h : x.toInt64? = some i) :
    (ofInt i.toInt).eq x = true := by
  have hlow := i.le_toInt
  have hhigh := i.toInt_lt
  obtain ⟨q, hq, hnearest, -⟩ := exists_denotes_ofInt (show i.toInt.natAbs < 2 ^ 64 by omega)
  rw [eq_iff_denotes hq]
  rcases toInt64?_eq_some_iff.1 h with hx | ⟨hx, rfl⟩
  · rwa [hnearest.eq_of_denotes hx]
  · -- the greatest integer is rounded up to the bound
    have hbound : (ofInt Int64.maxValue.toInt).Denotes (2 ^ 63 : Int) :=
      toInt?_eq_some_iff.1 (by decide)
    rw [hq.unique hbound]
    exact_mod_cast hx

end Binary64

end Number

namespace Value

/-- Whether two scalars that become equal when one of them is coerced also do so when the other one
is. Those of one kind do. A truth value goes together with the numbers zero and one and with its own
text, an integer with the doubles that become it and with its own text, and a double with its own
text if that reads back as the same number. Composite values leave it to their parts. -/
def interchangeable : Value → Value → Bool
  | .bool _, .int i | .int i, .bool _ => i == 0 || i == 1
  | .bool _, .float x | .float x, .bool _ => x.isZero || Binary64.one.eq x
  | .bool b, .string s | .string s, .bool b => s == if b then "true" else "false"
  | .int i, .float x | .float x, .int i => x.toInt64? == some i
  | .int i, .string s | .string s, .int i => s == String.ofList (Number.intText i.toInt)
  | .float x, .string s | .string s, .float x =>
      s == String.ofList (x.text .plain) &&
        (Number.readFloat? (Text.trim s.toList)).any (·.eq x)
  | _, _ => true

/-! ### Scalars -/

/-- If one of the two values accepts the other, both do exactly if they are interchangeable. -/
def Settled (left right : Value) : Prop :=
  left.accepts right = true ∧ right.accepts left = true ↔
    (left.accepts right = true ∨ right.accepts left = true) ∧ left.interchangeable right = true

theorem interchangeable_comm (left right : Value) :
    left.interchangeable right = right.interchangeable left := by
  cases left <;> cases right <;> rfl

theorem Settled.symm {left right : Value} (h : left.Settled right) : right.Settled left := by
  rw [Settled, interchangeable_comm, and_comm, or_comm]
  exact h

theorem accepts_of_kind_ne {expected actual : Value} (hs : expected.kind.isComposite = false)
    (h : actual.kind ≠ expected.kind) :
    expected.accepts actual = (actual.scalarAs? expected.kind).any (·.same expected) := by
  rw [accepts_of_scalar hs, coerceTo, if_neg h]
  cases actual.scalarAs? expected.kind <;> rfl

theorem settled_of_kind_eq {left right : Value} (hl : left.kind.isComposite = false)
    (h : left.kind = right.kind) : left.Settled right := by
  have hr : right.kind.isComposite = false := h ▸ hl
  have hsame : left.accepts right = right.accepts left := by
    rw [accepts_of_scalar hl, accepts_of_scalar hr, coerceTo, coerceTo, if_pos h, if_pos h.symm]
    exact same_comm right left
  have hinterchangeable : left.interchangeable right = true := by
    cases left <;> cases right <;> first
      | rfl
      | cases h
  rw [Settled, hsame, hinterchangeable]
  simp

/-- Nothing becomes null, and null becomes nothing else. -/
theorem settled_null {right : Value} (hr : right.kind.isComposite = false)
    (h : Value.null.kind ≠ right.kind) : Value.null.Settled right := by
  have hnull : Value.null.accepts right = false := by
    rw [accepts_of_kind_ne rfl h.symm]
    cases right <;> rfl
  have hother : right.accepts .null = false := accepts_of_kind_ne hr h
  rw [Settled, hnull, hother]
  simp

theorem settled_bool_int (b : Bool) (i : Int64) : (Value.bool b).Settled (.int i) := by
  have hbool : (Value.bool b).accepts (.int i) = ((i != 0) == b) :=
    accepts_of_kind_ne rfl (by simp [kind])
  have hint : (Value.int i).accepts (.bool b) = ((if b then 1 else 0) == i) :=
    accepts_of_kind_ne rfl (by simp [kind])
  rw [Settled, hbool, hint, interchangeable]
  -- zero and one are the only integers that a truth value becomes
  by_cases hzero : i = 0
  · subst hzero
    cases b <;> decide
  · by_cases hone : i = 1
    · subst hone
      cases b <;> decide
    · cases b <;> simp [hzero, hone, Ne.symm hone]

theorem settled_bool_float (b : Bool) (x : Binary64) : (Value.bool b).Settled (.float x) := by
  have hbool : (Value.bool b).accepts (.float x) = ((!x.isZero) == b) :=
    accepts_of_kind_ne rfl (by simp [kind])
  have hfloat : (Value.float x).accepts (.bool b) = (if b then Binary64.one else .zero false).eq x :=
    accepts_of_kind_ne rfl (by simp [kind])
  rw [Settled, hbool, hfloat, interchangeable]
  -- as for integers, but that there are two zeros
  cases hzero : x.isZero with
  | true =>
    have hone : Binary64.one.eq x = false := by
      rw [← Bool.not_eq_true]
      intro hone
      rw [Binary64.isZero_of_one_eq hone] at hzero
      cases hzero
    cases b <;> simp [hone, x.isZero_iff.1 hzero]
  | false =>
    have hne : (Binary64.zero false).eq x = false := by
      rw [← Bool.not_eq_true, ← Binary64.isZero_iff, hzero]
      exact Bool.false_ne_true
    cases b <;> simp [hne]

theorem settled_bool_string (b : Bool) (s : String) : (Value.bool b).Settled (.string s) := by
  have hbool : (Value.bool b).accepts (.string s)
      = (readBool? (Text.trim s.toList)).any (· == b) := by
    rw [accepts_of_kind_ne rfl (by simp [kind])]
    exact Option.any_map
  have hstring : (Value.string s).accepts (.bool b) = ((if b then "true" else "false") == s) :=
    accepts_of_kind_ne rfl (by simp [kind])
  rw [Settled, hbool, hstring, interchangeable, BEq.comm]
  by_cases hs : s = if b then "true" else "false"
  · -- the text of a truth value reads as that value
    subst hs
    cases b <;> decide
  · simp [hs]

theorem settled_int_float (i : Int64) (x : Binary64) : (Value.int i).Settled (.float x) := by
  have hint : (Value.int i).accepts (.float x) = (x.toInt64? == some i) := by
    rw [accepts_of_kind_ne rfl (by simp [kind])]
    show (x.toInt64?.map Value.int).any (·.same (.int i)) = _
    cases x.toInt64? <;> rfl
  have hfloat : (Value.float x).accepts (.int i) = (Binary64.ofInt i.toInt).eq x :=
    accepts_of_kind_ne rfl (by simp [kind])
  rw [Settled, hint, hfloat, interchangeable]
  -- a double that becomes the integer equals the double for it, so the first direction decides
  by_cases hx : x.toInt64? = some i
  · simp [hx, Binary64.ofInt_eq_of_toInt64? hx]
  · simp [hx]

theorem settled_int_string (i : Int64) (s : String) : (Value.int i).Settled (.string s) := by
  have hint : (Value.int i).accepts (.string s)
      = (readInt64? (Text.trim s.toList)).any (· == i) := by
    rw [accepts_of_kind_ne rfl (by simp [kind])]
    exact Option.any_map
  have hstring : (Value.string s).accepts (.int i)
      = (String.ofList (Number.intText i.toInt) == s) :=
    accepts_of_kind_ne rfl (by simp [kind])
  rw [Settled, hint, hstring, interchangeable, BEq.comm]
  by_cases hs : s = String.ofList (Number.intText i.toInt)
  · -- the text of an integer reads as that integer
    have hspells : Spells s.toList i.toInt := by
      rw [hs, String.toList_ofList]
      exact ⟨[], _, [], by simp, Number.isNumeral_intText _, nofun, nofun⟩
    have hread : readInt64? (Text.trim s.toList) = some i :=
      (readInt64?_of_numeral (Number.isNumeral_trim hspells) i).2 (.inl rfl)
    rw [hread, ← hs]
    simp
  · simp [hs]

theorem settled_float_string (x : Binary64) (s : String) :
    (Value.float x).Settled (.string s) := by
  have hfloat : (Value.float x).accepts (.string s)
      = (Number.readFloat? (Text.trim s.toList)).any (·.eq x) := by
    rw [accepts_of_kind_ne rfl (by simp [kind])]
    exact Option.any_map
  have hstring : (Value.string s).accepts (.float x)
      = (String.ofList (x.text .plain) == s) :=
    accepts_of_kind_ne rfl (by simp [kind])
  rw [Settled, hfloat, hstring, interchangeable, BEq.comm]
  -- neither direction decides here: a text that is read need not be the one that is written
  cases s == String.ofList (x.text .plain) <;> simp

/-- Between two scalars it is `interchangeable` that decides. -/
theorem settled_of_scalars {left right : Value} (hl : left.kind.isComposite = false)
    (hr : right.kind.isComposite = false) : left.Settled right := by
  by_cases h : left.kind = right.kind
  · exact settled_of_kind_eq hl h
  · -- one lemma for two kinds, which is turned around for the other order
    cases left with
    | null => exact settled_null hr h
    | bool b =>
      cases right with
      | null => exact (settled_null hl (Ne.symm h)).symm
      | int i => exact settled_bool_int b i
      | float x => exact settled_bool_float b x
      | string s => exact settled_bool_string b s
      | bool c => exact absurd rfl h
      | _ => cases hr
    | int i =>
      cases right with
      | null => exact (settled_null hl (Ne.symm h)).symm
      | bool b => exact (settled_bool_int b i).symm
      | float x => exact settled_int_float i x
      | string s => exact settled_int_string i s
      | int k => exact absurd rfl h
      | _ => cases hr
    | float x =>
      cases right with
      | null => exact (settled_null hl (Ne.symm h)).symm
      | bool b => exact (settled_bool_float b x).symm
      | int i => exact (settled_int_float i x).symm
      | string s => exact settled_float_string x s
      | float y => exact absurd rfl h
      | _ => cases hr
    | string s =>
      cases right with
      | null => exact (settled_null hl (Ne.symm h)).symm
      | bool b => exact (settled_bool_string b s).symm
      | int i => exact (settled_int_string i s).symm
      | float x => exact (settled_float_string x s).symm
      | string t => exact absurd rfl h
      | _ => cases hr
    | _ => cases hl

theorem isComposite_of_accepts {expected actual : Value} (hs : expected.kind.isComposite = false)
    (h : expected.accepts actual = true) : actual.kind.isComposite = false := by
  by_cases hkind : actual.kind = expected.kind
  · rw [hkind]
    exact hs
  · rw [accepts_of_kind_ne hs hkind] at h
    cases actual with
    | list items => cases h
    | map entries => cases h
    | record name fields => cases h
    | _ => rfl

/-! ### Parts at the same place -/

/-- What the value accepts accepts the value in turn exactly if the scalars at each place are
interchangeable. -/
def SymmetricUpToScalars (value : Value) : Prop :=
  ∀ other : Value, value.Regular → other.Regular → value.accepts other = true →
    (other.accepts value = true ↔
      ∀ pair ∈ other.aligned value, pair.1.interchangeable pair.2 = true)

theorem acceptsItems_symm_iff {items others : List Value} (hi : ∀ item ∈ items, item.Regular)
    (ho : ∀ other ∈ others, other.Regular) (ih : ∀ item ∈ items, item.SymmetricUpToScalars)
    (h : acceptsItems items others = true) : acceptsItems others items = true ↔
      ∀ pair ∈ alignedItems others items, pair.1.interchangeable pair.2 = true := by
  induction items generalizing others with
  | nil =>
    cases others with
    | nil => exact iff_of_true rfl (List.forall_mem_nil _)
    | cons other others => cases h
  | cons item items ihs =>
    cases others with
    | nil => cases h
    | cons other others =>
      obtain ⟨hitem, hitems⟩ := List.forall_mem_cons.1 hi
      obtain ⟨hother, hothers⟩ := List.forall_mem_cons.1 ho
      obtain ⟨hhead, htail⟩ := List.forall_mem_cons.1 ih
      rw [acceptsItems, Bool.and_eq_true] at h
      rw [acceptsItems, Bool.and_eq_true, alignedItems, List.forall_mem_append,
        hhead other hitem hother h.1, ihs hitems hothers htail h.2]

theorem accepts_symm_of_entries? {value other : Value} {entries others : List (String × Value)}
    (hv : value.entries? = some entries) (ho : other.entries? = some others)
    (h : value.accepts other = true) :
    other.accepts value = true ↔ acceptsEntries others entries = true := by
  have hkeys := (acceptsEntries_of_accepts h ho hv).1.symm
  rcases eq_map_or_record_of_entries? hv with rfl | ⟨name, rfl⟩ <;>
    rcases eq_map_or_record_of_entries? ho with rfl | ⟨name', rfl⟩
  case inr.inr =>
    -- two records need one name, which the first direction has shown
    rw [accepts, Bool.and_eq_true, beq_iff_eq] at h
    rw [accepts, Bool.and_eq_true, Bool.and_eq_true, beq_iff_eq, decide_eq_true_eq,
      and_iff_right h.1.symm, and_iff_right hkeys]
  all_goals
    rw [accepts, Bool.and_eq_true, decide_eq_true_eq, and_iff_right hkeys]

theorem symmetricUpToScalars_of_entries? {value : Value} {entries : List (String × Value)}
    (hv : value.entries? = some entries) (hs : ∀ entry ∈ entries, entry.2.SymmetricUpToScalars) :
    value.SymmetricUpToScalars := by
  intro other hr hro h
  obtain ⟨others, ho⟩ := exists_entries_of_accepts h hv
  obtain ⟨-, hentries⟩ := hr.of_entries? hv
  obtain ⟨hno, hothers⟩ := hro.of_entries? ho
  obtain ⟨hkeys, hacc⟩ := acceptsEntries_of_accepts h ho hv
  rw [acceptsEntries_iff] at hacc
  -- an entry of the other value and the one that it was compared to
  have hpart : ∀ entry ∈ others, ∀ part, Dictionary.find? entry.1 entries = some part →
      (entry.2.accepts part = true ↔
        ∀ pair ∈ entry.2.aligned part, pair.1.interchangeable pair.2 = true) := by
    intro entry hm part hf
    have hmp := Dictionary.mem_of_find?_eq_some hf
    obtain ⟨found, hfound, hpass⟩ := hacc _ hmp
    rw [Dictionary.find?_eq_some_of_mem hno hm] at hfound
    cases hfound
    exact hs _ hmp entry.2 (hentries _ hmp) (hothers entry hm) hpass
  have hwhole : other.interchangeable value = true := by
    rcases eq_map_or_record_of_entries? hv with rfl | ⟨name, rfl⟩ <;>
      rcases eq_map_or_record_of_entries? ho with rfl | ⟨name', rfl⟩ <;> rfl
  rw [accepts_symm_of_entries? hv ho h, aligned_of_entries? ho hv, List.forall_mem_cons,
    and_iff_right hwhole, acceptsEntries_iff, forall_mem_alignedEntries]
  constructor
  · intro hall entry hm part hf
    obtain ⟨found, hfound, hpass⟩ := hall entry hm
    cases hf.symm.trans hfound
    exact (hpart entry hm part hf).1 hpass
  · intro hall entry hm
    obtain ⟨part, hf⟩ :=
      Dictionary.exists_find?_of_mem_keys (hkeys.2 (Dictionary.mem_keys_of_mem hm))
    exact ⟨part, hf, (hpart entry hm part hf).2 (hall entry hm part hf)⟩

theorem symmetricUpToScalars (value : Value) : value.SymmetricUpToScalars := by
  induction value using Value.induction with
  | scalar value hs =>
    intro other _ _ h
    have hso := isComposite_of_accepts hs h
    rw [aligned_of_scalar other hs, List.forall_mem_singleton, interchangeable_comm]
    have hsettled := settled_of_scalars hs hso
    rw [Settled, h] at hsettled
    simpa using hsettled
  | list items ih =>
    intro other hr hro h
    cases other with
    | list others =>
      rw [aligned, List.forall_mem_cons]
      rw [accepts] at h ⊢
      rw [acceptsItems_symm_iff (fun _ hi => hr.of_mem_items hi) (fun _ ho => hro.of_mem_items ho)
        ih h]
      exact (and_iff_right rfl).symm
    | _ => cases h
  | map entries ih => exact symmetricUpToScalars_of_entries? rfl ih
  | record name fields ih => exact symmetricUpToScalars_of_entries? rfl ih

end Value

/-- Where an equality check passes, it passes in the other direction exactly if any two scalars at
one place are interchangeable. -/
theorem Check.equal_symm_iff {left right : Value} (hl : left.Regular) (hr : right.Regular)
    (h : equal left right = .ok ()) : equal right left = .ok () ↔
      ∀ pair ∈ right.aligned left, pair.1.interchangeable pair.2 = true := by
  rw [equal_eq_ok_iff, Value.matchesItem_eq_accepts hl hr] at h
  rw [equal_eq_ok_iff, Value.matchesItem_eq_accepts hr hl]
  exact left.symmetricUpToScalars right hl hr h

end HttpTest
