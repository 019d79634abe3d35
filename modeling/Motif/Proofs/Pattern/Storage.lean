import Motif.Pattern.Stored
import Motif.Proofs.Number.Value
import Motif.Proofs.Pattern.Canonical

/-!
Stored patterns read back.

What is stored of a pattern is all of it, unless a numeral in it is so large that it stands for an
infinity.
-/

namespace Motif

/-- Whether a number is not infinite and not `nan`; integers never are. -/
def Number.isFinite : Number → Bool
  | int _ => true
  | float number => number.isFinite

/-- Whether a literal reads back: its number is finite, if it has one. -/
def Literal.isStorable (literal : Literal) : Bool :=
  literal.number.all Number.isFinite

/-- The literal of a slot, if it is one. -/
def Slot.literals : Slot → List Literal
  | .literal value => [value]
  | .binder _ | .wildcard | .cons _ => []

/-- The literals of a pattern. -/
def Pattern.literals : Pattern → List Literal
  | .literal value => [value]
  | .list slots => slots.flatMap Slot.literals
  | .wildcard | .cons _ | .typeTag _ => []

/-- Items read back together when each of them does. -/
theorem Stored.mapM_map_eq {α : Type} {write : α → Stored} {read : Stored → Option α}
    {readable : α → Bool}
    (reads : ∀ item, read (write item) = if readable item then some item else none)
    (items : List α) :
    (items.map write).mapM read = if items.all readable then some items else none := by
  induction items with
  | nil => rfl
  | cons item items ih =>
    rw [List.map_cons, List.mapM_cons, reads, ih, List.all_cons]
    cases readable item <;> cases items.all readable <;> rfl

/-- A number reads back when it is finite, and else nothing does. -/
theorem Number.ofStored?_toStored (number : Number) :
    ofStored? number.toStored = if number.isFinite then some number else none := by
  cases number with
  | int value =>
    -- The number has 64 bits, so what is stored of it is never out of range.
    have range : Int64.minValue.toInt ≤ value.toInt ∧ value.toInt ≤ Int64.maxValue.toInt :=
      ⟨value.minValue_le_toInt, value.toInt_le⟩
    show (if _ then _ else _) = _
    rw [if_pos range, Int64.ofInt_toInt]
    rfl
  | float value =>
    cases finite : value.isFinite with
    | false =>
      simp [toStored, isFinite, finite, ofStored?, Stored.tagged, Stored.variant?,
        Stored.binary64?]
    | true =>
      simp [toStored, isFinite, finite, ofStored?, Stored.tagged, Stored.variant?,
        Stored.binary64?]

/-- A literal reads back with its number, and no number takes the place of one that is lost. -/
theorem Literal.ofStored?_toStored (literal : Literal) :
    ofStored? literal.toStored = if literal.isStorable then some literal else none := by
  obtain ⟨text, number, isQuoted⟩ := literal
  cases number with
  | none => rfl
  | some number =>
    -- The other two parts always read back, so the number decides.
    have parts : (toStored ⟨text, some number, isQuoted⟩).parts? ["text", "number", "quoted"] =
        some [some (.text text), some number.toStored, some (.bool isQuoted)] := by
      simp [toStored, Stored.parts?]
    have read : ofStored? (toStored ⟨text, some number, isQuoted⟩) =
        (Number.ofStored? number.toStored).map fun own => ⟨text, some own, isQuoted⟩ := by
      rw [ofStored?, parts]
      cases number <;> rfl
    rw [read, number.ofStored?_toStored]
    cases finite : number.isFinite with
    | false => simp [isStorable, finite]
    | true => simp [isStorable, finite]

/-- A tail reads back. -/
theorem Tail.ofStored?_toStored (tail : Tail) : ofStored? tail.toStored = some tail := by
  -- A name and its absence are stored apart.
  cases tail <;> rfl

/-- A cons pattern reads back. -/
theorem ConsPattern.ofStored?_toStored (parts : ConsPattern) :
    ofStored? parts.toStored = some parts := by
  obtain ⟨heads, tail⟩ := parts
  -- Names are texts, which always read back.
  have names : (heads.map Stored.text).mapM Stored.text? = some heads := by
    have reads : (heads.map Stored.text).mapM Stored.text? =
        if heads.all (fun _ => true) then some heads else none :=
      Stored.mapM_map_eq (fun _ => rfl) heads
    simpa using reads
  have read : ofStored? (toStored ⟨heads, tail⟩) =
      ((heads.map Stored.text).mapM Stored.text?).bind fun heads =>
        (Tail.ofStored? tail.toStored).bind fun tail => some ⟨heads, tail⟩ := rfl
  rw [read, names, tail.ofStored?_toStored]
  rfl

/-- A slot reads back when its literal does, if it is one. -/
theorem Slot.ofStored?_toStored (slot : Slot) :
    ofStored? slot.toStored = if slot.literals.all Literal.isStorable then some slot else none := by
  -- Slots of other kinds have nothing that could be lost.
  cases slot with
  | literal value =>
    show (Literal.ofStored? value.toStored).map Slot.literal = _
    simp [value.ofStored?_toStored, literals, apply_ite]
  | cons parts => exact congrArg (Option.map cons) parts.ofStored?_toStored
  | binder | wildcard => rfl

/-- A pattern reads back as it was when all of its literals do, and else nothing is read. -/
theorem Pattern.ofStored?_toStored (pattern : Pattern) :
    ofStored? pattern.toStored =
      if pattern.literals.all Literal.isStorable then some pattern else none := by
  cases pattern with
  | literal value =>
    show (Literal.ofStored? value.toStored).map Pattern.literal = _
    simp [value.ofStored?_toStored, literals, apply_ite]
  | list slots =>
    show ((slots.map Slot.toStored).mapM Slot.ofStored?).map Pattern.list = _
    -- The slots read back together when each one does.
    rw [Stored.mapM_map_eq Slot.ofStored?_toStored, literals, List.all_flatMap]
    exact apply_ite ..
  | cons parts => exact congrArg (Option.map cons) parts.ofStored?_toStored
  | wildcard | typeTag => rfl

/-- An integer of 64 bits is far from where rounding leads to infinity. -/
theorem abs_toInt_lt_overflow (whole : Int64) : |(whole.toInt : ℚ)| < Binary64.overflow := by
  have least : (-2 ^ 63 : ℚ) ≤ whole.toInt := by exact_mod_cast whole.minValue_le_toInt
  have most : (whole.toInt : ℚ) ≤ 2 ^ 63 := by exact_mod_cast whole.toInt_lt.le
  have far : (2 ^ 63 : ℚ) < Binary64.overflow := by
    have split : (2 : ℚ) ^ 1024 = 2 ^ 54 * 2 ^ 970 := pow_add 2 54 970
    have step : (2 : ℚ) ^ 63 < 2 ^ 970 := pow_lt_pow_right₀ one_lt_two (by decide)
    rw [Binary64.overflow, split]
    generalize (2 : ℚ) ^ 970 = unit at step ⊢
    norm_num at step ⊢
    linarith
  exact (abs_le.mpr ⟨by linarith, most⟩).trans_lt far

/-- A numeral stands for a finite number when its size is below where rounding overflows. -/
theorem Number.Represents.isFinite_iff {numeral : Numeral} {number : Number}
    (stands : number.Represents numeral) :
    number.isFinite = true ↔ |numeral.value| < Binary64.overflow := by
  cases stands with
  | int plain exact =>
    rw [Numeral.value_of_plain plain, ← exact]
    exact iff_of_true rfl (abs_toInt_lt_overflow _)
  | float wide nearest =>
    -- Rounding reaches infinity exactly from the bound on.
    cases nearest with
    | infinity large => exact iff_of_false Bool.false_ne_true large.not_gt
    | finite exact small closest even => exact iff_of_true rfl small

/-- A numeral that overflows is one that stands for an infinity. -/
def Literal.Overflows (literal : Literal) : Prop :=
  ∃ numeral, Numeral.ofChars? literal.text.toList = some numeral ∧
    Binary64.overflow ≤ |numeral.value|

/-- A literal that some text writes reads back unless its text is a numeral that overflows. -/
theorem Literal.WellFormed.isStorable_iff {literal : Literal} (sound : literal.WellFormed) :
    literal.isStorable = true ↔ ¬ literal.Overflows := by
  -- The number of such a literal is the one that its text stands for.
  rw [isStorable, sound.number_eq, Number.parse?, Overflows]
  cases Numeral.ofChars? literal.text.toList with
  | none => simp
  | some numeral =>
    simp [(Number.ofNumeral_represents numeral).isFinite_iff]

namespace Pattern

/-- A pattern that was read is sound, however long its text is. -/
theorem sound_of_parseWith {options : PatternOptions} {source : String} {pattern : Pattern}
    (done : parseWith options source = .ok pattern) : pattern.Sound := by
  -- A type tag has no parts, and all other patterns have a form, which is sound.
  by_cases tagged : ∃ name, pattern = .typeTag name
  · obtain ⟨name, rfl⟩ := tagged
    trivial
  · exact (form_of_parseWith done fun name same => tagged ⟨name, same⟩).1.sound

/-- The literals of a sound pattern are well-formed. -/
theorem Sound.wellFormed_of_mem {pattern : Pattern} (sound : pattern.Sound) {literal : Literal}
    (member : literal ∈ pattern.literals) : literal.WellFormed := by
  -- A pattern is a literal itself or has its literals among the slots of a list.
  cases pattern with
  | literal value =>
    obtain rfl := List.mem_singleton.mp member
    exact sound
  | list slots =>
    obtain ⟨slot, among, own⟩ := List.mem_flatMap.mp member
    cases slot with
    | literal value =>
      obtain rfl := List.mem_singleton.mp own
      exact sound _ among
    | binder | wildcard | cons => cases own
  | wildcard | cons | typeTag => cases member

/--
A pattern that was read is stored and read back unchanged, unless a numeral in it overflows.

A numeral of `2 ^ 1024 - 2 ^ 970` or more in size stands for an infinity, which cannot be stored,
and then nothing is read back.
-/
theorem stored_pattern_reads_back_unless_overflow {options : PatternOptions} {source : String}
    {pattern : Pattern} (done : parseWith options source = .ok pattern) :
    (pattern == pattern) = true ∧
      ((∀ literal ∈ pattern.literals, ¬ literal.Overflows) →
        ofStored? pattern.toStored = some pattern) ∧
      ((∃ literal ∈ pattern.literals, literal.Overflows) →
        ofStored? pattern.toStored = none) := by
  -- What is read is sound, so the number of a literal is the one that its text writes.
  have sound := sound_of_parseWith done
  have storable : pattern.literals.all Literal.isStorable = true ↔
      ∀ literal ∈ pattern.literals, ¬ literal.Overflows := by
    rw [List.all_eq_true]
    refine forall₂_congr ?_
    intro literal member
    exact (sound.wellFormed_of_mem member).isStorable_iff
  refine ⟨(sound.beq_iff sound).mpr rfl, ?_, ?_⟩
  · intro small
    rw [ofStored?_toStored, if_pos (storable.mpr small)]
  · rintro ⟨literal, member, large⟩
    rw [ofStored?_toStored, if_neg fun all => storable.mp all literal member large]

/-- A numeral in quotes and a cons pattern in one list read back together. -/
theorem stored_pattern_reads_back_unless_overflow_of_list :
    let pattern : Pattern := .list [.literal (.quoted "12"), .cons ⟨["x"], .wildcard⟩]
    parseWith {} "[\"12\", (x:_)]" = .ok pattern ∧
      (∀ literal ∈ pattern.literals, ¬ literal.Overflows) ∧
      (pattern == pattern) = true ∧ ofStored? pattern.toStored = some pattern := by
  intro pattern
  have done : parseWith {} "[\"12\", (x:_)]" = .ok pattern := by cbv
  have small : ∀ literal ∈ pattern.literals, ¬ literal.Overflows := by
    intro literal member
    obtain rfl := List.mem_singleton.mp member
    have sound : (Literal.quoted "12").WellFormed := .inl ⟨_, rfl⟩
    exact sound.isStorable_iff.mp (by decide)
  obtain ⟨equal, reads, -⟩ := stored_pattern_reads_back_unless_overflow done
  exact ⟨done, small, equal, reads small⟩

/-- A text that is a numeral is read as its literal. -/
theorem parseWith_of_numeral (options : PatternOptions) {text : String} {numeral : Numeral}
    (read : Numeral.ofChars? text.toList = some numeral)
    (short : byteLength text.toList ≤ Span.limit) :
    parseWith options text = .ok (.literal ⟨text, some (.ofNumeral numeral), false⟩) := by
  have written := Literal.numeral?_eq_some_iff.mpr ⟨numeral, read, rfl⟩
  -- The literal is well-formed, so its canonical text is read as it.
  have whole : WellFormed options (.literal ⟨text, some (.ofNumeral numeral), false⟩) :=
    { sound := .inr ⟨text, written⟩
      binders := List.forall_mem_nil _
      distinct := List.nodup_nil
      typeName := nofun }
  -- A bare numeral is its own canonical text.
  have own : (literal ⟨text, some (.ofNumeral numeral), false⟩).text = text :=
    String.ofList_toList
  rw [← own] at short
  simpa only [own] using whole.parseWith_text short

/-- The integer `2 * 10 ^ 308` is read as a literal that is stored, but not read back. -/
theorem huge_integer_is_not_read_back :
    let source := String.ofList ('2' :: List.replicate 308 '0')
    ∃ pattern, parseWith {} source = .ok pattern ∧ ofStored? pattern.toStored = none := by
  intro source
  let numeral : Numeral := ⟨false, '2' :: List.replicate 308 '0', none⟩
  have chars : source.toList = '2' :: List.replicate 308 '0' := String.toList_ofList
  have read : Numeral.ofChars? source.toList = some numeral := by
    rw [chars]
    decide +kernel
  have short : byteLength source.toList ≤ Span.limit := by
    rw [chars]
    decide +kernel
  have value : numeral.value = 2 * 10 ^ 308 := by
    have unscaled : numeral.unscaled = 2 * 10 ^ 308 := by decide +kernel
    rw [Numeral.value_of_plain rfl, unscaled, Int.cast_mul, Int.cast_pow, Int.cast_ofNat,
      Int.cast_ofNat]
  have large : Binary64.overflow ≤ |numeral.value| := by
    have order : 2 ^ 1024 ≤ 2 * 10 ^ 308 + 2 ^ 970 := by decide +kernel
    have bound : (2 ^ 1024 : ℚ) ≤ 2 * 10 ^ 308 + 2 ^ 970 := by exact_mod_cast order
    rw [value, Binary64.overflow, abs_of_nonneg (by positivity)]
    exact sub_le_iff_le_add.mpr bound
  -- So the numeral stands for an infinity, which is the one literal to be stored.
  have infinite : (Number.ofNumeral numeral).isFinite = false :=
    Bool.eq_false_iff.mpr fun finite =>
      ((Number.ofNumeral_represents numeral).isFinite_iff.mp finite).not_ge large
  refine ⟨_, parseWith_of_numeral {} read short, ?_⟩
  rw [Pattern.ofStored?_toStored, literals, List.all_cons, Literal.isStorable, Option.all_some,
    infinite]
  rfl

end Pattern

end Motif
