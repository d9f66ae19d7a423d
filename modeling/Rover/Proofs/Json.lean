import Rover.Json.Writer
import Rover.Proofs.WholePart

/-!
# Values with a JSON text

A value can be written as JSON exactly if all its parts can. What programs and sensors produce has
a text, except for whole numbers with too many digits; the time has one as long as the clock is
finite.
-/

namespace Rover.Json

def Writable (v : Value) : Prop := ∃ text, write true v = .ok text

theorem writable_none : Writable .none := ⟨"null", rfl⟩

theorem writable_bool (b : Bool) : Writable (.bool b) := ⟨_, rfl⟩

theorem writable_str (s : String) : Writable (.str s) := ⟨_, rfl⟩

theorem writable_float (x : Float) : Writable (.float x) := ⟨_, rfl⟩

theorem writable_int_iff (n : Int) : Writable (.int n) ↔ Number.isWritable n := by
  change (∃ text, intText n = .ok text) ↔ _
  unfold intText
  split <;> simp_all

theorem exists_ok_append {e e' : Result String} (f : String → String → String) :
    (∃ text, (do return f (← e) (← e')) = Except.ok text) ↔
      (∃ text, e = .ok text) ∧ ∃ text, e' = .ok text := by
  cases e with
  | error f => simp [bind, Except.bind]
  | ok a =>
    cases e' with
    | error f => simp [bind, Except.bind]
    | ok b => simp [bind, Except.bind, pure, Except.pure]

theorem exists_writeItems_iff (items : List Value) :
    (∃ text, writeItems true items = .ok text) ↔ ∀ v ∈ items, Writable v := by
  induction items with
  | nil => exact iff_of_true ⟨_, rfl⟩ (List.forall_mem_nil _)
  | cons v rest ih =>
    rw [List.forall_mem_cons, ← ih]
    cases rest with
    | nil => exact (and_iff_left ⟨_, rfl⟩).symm
    | cons w rest => exact exists_ok_append fun a b => a ++ ", " ++ b

theorem exists_writeEntries_iff (entries : Entries) :
    (∃ text, writeEntries true entries = .ok text) ↔
      ∀ e ∈ entries, ∃ text, writeEntry true e = .ok text := by
  induction entries with
  | nil => exact iff_of_true ⟨_, rfl⟩ (List.forall_mem_nil _)
  | cons e rest ih =>
    rw [List.forall_mem_cons, ← ih]
    cases rest with
    | nil => exact (and_iff_left ⟨_, rfl⟩).symm
    | cons e' rest => exact exists_ok_append fun a b => a ++ ", " ++ b

theorem writable_list_iff (items : List Value) :
    Writable (.list items) ↔ ∀ v ∈ items, Writable v := by
  rw [← exists_writeItems_iff]
  change (∃ text, (do return "[" ++ (← writeItems true items) ++ "]") = Except.ok text) ↔ _
  cases writeItems true items <;> simp [bind, Except.bind, pure, Except.pure]

theorem writable_dict_iff (entries : Entries) :
    Writable (.dict entries) ↔ ∀ e ∈ entries, ∃ text, writeEntry true e = .ok text := by
  rw [← exists_writeEntries_iff]
  change (∃ text, (do return "\x7b" ++ (← writeEntries true entries) ++ "\x7d") = Except.ok text) ↔ _
  cases writeEntries true entries <;> simp [bind, Except.bind, pure, Except.pure]

theorem writeEntry_str_iff (key : String) (v : Value) :
    (∃ text, writeEntry true (.str key, v) = .ok text) ↔ Writable v := by
  change (∃ text, (do return _ ++ (← write true v)) = Except.ok text) ↔
    ∃ text, write true v = .ok text
  cases write true v <;> simp [bind, Except.bind, pure, Except.pure]

theorem writable_of_writeEntry {e : Value × Value} (h : ∃ text, writeEntry true e = .ok text) :
    Writable e.2 := by
  obtain ⟨k, v⟩ := e
  exact ((exists_ok_append fun a b => a ++ ": " ++ b).mp h).2

theorem writable_record_iff (fields : Record) :
    Writable (record fields) ↔ ∀ f ∈ fields, Writable f.2 := by
  unfold record
  rw [writable_dict_iff, List.forall_mem_map]
  exact forall₂_congr fun f _ => writeEntry_str_iff f.1 f.2

theorem writable_of_lookup? {entries : Entries} {key v : Value}
    (h : Writable (.dict entries)) (hv : Value.lookup? entries key = some v) : Writable v := by
  obtain ⟨e, he, rfl⟩ := Option.map_eq_some_iff.mp hv
  exact writable_of_writeEntry ((writable_dict_iff entries).mp h e (List.mem_of_find?_eq_some he))

theorem writable_int_of_lt {n : Int} (h : n.natAbs < twoPow 1024) : Writable (.int n) := by
  rw [writable_int_iff, Number.isWritable, decide_eq_true_iff]
  calc n.natAbs < twoPow 1024 := h
    _ ≤ twoPow Number.digitLimit := twoPow_le_twoPow (by decide)
    _ ≤ Number.writingBound := twoPow_le_tenPow _

variable {x : Float}

theorem toInteger_of_isFinite (h : x.isFinite) :
    ∃ n, Value.toInteger (.float x) = .ok n ∧ Writable (.int n) := by
  refine ⟨_, Value.toInteger_float (wholePart?_eq_cut h), writable_int_of_lt ?_⟩
  have hamt : |amount x| ≤ (18014398509481982 * twoPow 970 : ℕ) := by
    rw [Nat.cast_mul, Nat.cast_ofNat, cast_twoPow, ← zpow_natCast]
    exact abs_amount_le h
  exact (natAbs_cut_le hamt).trans_lt (by decide +kernel)

theorem isFinite_of_toInteger {n : Int} (h : Value.toInteger (.float x) = .ok n) : x.isFinite := by
  change Num.truncate (.float x) = _ at h
  cases hb : Binary.ofFloat? x with
  | none =>
    simp only [Num.truncate, hb] at h
    cases h
  | some b => exact isFinite_of_ofFloat? hb

end Rover.Json

namespace Rover

export Json (Writable writable_bool writable_none writable_record_iff writable_str)

end Rover
