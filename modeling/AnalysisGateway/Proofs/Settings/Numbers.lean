import AnalysisGateway.Proofs.Number.Numeral
import AnalysisGateway.Proofs.Settings.Variables

/-!
# Natural numbers among the settings

A natural number among the settings is exactly the one that its variable writes, if it lies below
the bound of its width: nothing is cut off, and nothing wraps around. Any other text gives the
default and a warning. So every such setting fits its width, and the least length of a snippet is
at least one.
-/

namespace AnalysisGateway

/-- A variable that is set has the value that it is set to. -/
theorem Environment.set_self (env : Environment) (name : String) (value : Bytes) :
    env.set name value name = some value := if_pos rfl

namespace Settings

/-- What is read as a number of a width is what writes it, below the bound of the width. -/
theorem readNumber_eq_ok_iff {width n : Nat} {s : String} :
    readNumber width s = .ok n ↔ Numeral.Writes s.toList n ∧ n < 2 ^ width := by
  rw [← Numeral.readChars_eq_ok_iff, readNumber, Numeral.read]
  cases Numeral.readChars width s.toList with
  | ok m => simp [Except.mapError]
  | error fault => simp [Except.mapError]

namespace Quantity

variable {env : Environment} {q : Quantity} {width n : Nat} {s : String}

/-- A natural number is read by its width. -/
theorem read_eq_ok_iff (hwidth : q.width? = some width) :
    q.read s = .ok n ↔ Numeral.Writes s.toList n ∧ n < 2 ^ width := by
  have hread : q.read = readNumber width := by simp only [read, hwidth]
  rw [hread, readNumber_eq_ok_iff]

/-- What is found in a variable has been read from its text. -/
theorem exists_read_of_found (h : (q.found env).1 = some n) : ∃ text, q.read text = .ok n := by
  have hyields := yields_readVariable env q.name q.substitute q.read
  rw [found] at h
  generalize readVariable env q.name q.substitute q.read = result at h hyields
  cases hyields with
  | unset => contradiction
  | value _ hread => exact ⟨_, Option.some.inj h ▸ hread⟩
  | warned => contradiction

/-- The default of a natural number fits its width. -/
theorem default_lt {f : Format} (hwidth : q.width? = some width) (h : q.default f = some n) :
    n < 2 ^ width := by
  cases q <;> cases f <;> cases hwidth <;> cases h <;> decide

/-- **A natural number among the settings fits its width**, wherever it comes from. -/
theorem get_lt (hwidth : q.width? = some width) {f : Format}
    (h : q.get (ofFormat env f).1 = some n) : n < 2 ^ width := by
  have hraised {m : Nat} (hm : m < 2 ^ width) : q.raised m < 2 ^ width := by
    have hone : 1 < 2 ^ width := by cases q <;> cases hwidth <;> decide
    cases q <;> simp only [raised] <;> omega
  rw [get_ofFormat] at h
  obtain ⟨m, hm, rfl⟩ := Option.map_eq_some_iff.mp h
  cases hfound : (q.found env).1 with
  | none =>
      rw [hfound] at hm
      exact hraised (default_lt hwidth hm)
  | some k =>
      rw [hfound] at hm
      obtain rfl : k = m := Option.some.inj hm
      obtain ⟨text, hread⟩ := exists_read_of_found hfound
      exact hraised ((read_eq_ok_iff hwidth).mp hread).2

/-! ## Setting a variable -/

variable {f : Format}

/-- A text that can be read is found. -/
theorem found_set_of_ok (hread : q.read s = .ok n) :
    q.found (env.set q.name (Text.toBytes s)) = (some n, []) :=
  readVariable_of_ok (env.set_self q.name _) hread

/-- Of a text that cannot be read there is a warning. -/
theorem found_set_of_error {reason : String} (hread : q.read s = .error reason) :
    q.found (env.set q.name (Text.toBytes s)) =
      (none, [.settingIgnored q.name s reason q.substitute]) :=
  readVariable_of_error (env.set_self q.name _) hread

/-- **A number is what its variable writes**, raised if it is the least length of a snippet. -/
theorem get_of_writes (hwidth : q.width? = some width) (hwrites : Numeral.Writes s.toList n)
    (hn : n < 2 ^ width) :
    q.get (ofFormat (env.set q.name (Text.toBytes s)) f).1 = some (q.raised n) := by
  have hread : q.read s = .ok n := (read_eq_ok_iff hwidth).mpr ⟨hwrites, hn⟩
  rw [get_ofFormat, found_set_of_ok hread]
  rfl

/-- A text that writes no number of the width cannot be read. -/
theorem exists_read_eq_error (hwidth : q.width? = some width)
    (hwrites : ¬ ∃ n, Numeral.Writes s.toList n ∧ n < 2 ^ width) :
    ∃ reason, q.read s = .error reason := by
  cases hread : q.read s with
  | ok n => exact absurd ⟨n, (read_eq_ok_iff hwidth).mp hread⟩ hwrites
  | error reason => exact ⟨reason, rfl⟩

/-- What is found of a quantity beside its value is about its own variable. -/
theorem exists_eq_of_mem_found {event : Event} (h : event ∈ (q.found env).2) :
    ∃ value reason, event = .settingIgnored q.name value reason q.substitute := by
  have hyields := yields_readVariable env q.name q.substitute q.read
  rw [found] at h
  generalize readVariable env q.name q.substitute q.read = result at h hyields
  cases hyields with
  | unset => contradiction
  | value => contradiction
  | warned => exact ⟨_, _, List.mem_singleton.mp h⟩

/-- There is no warning of a quantity in whose variable nothing is found wrong. -/
theorem settingIgnored_not_mem (hevents : (q.found env).2 = []) (value reason : String)
    (substitute : Substitute) :
    .settingIgnored q.name value reason substitute ∉ (ofFormat env f).2 := by
  intro hmem
  rw [events_ofFormat, List.mem_flatMap] at hmem
  obtain ⟨r, -, hmem⟩ := hmem
  obtain ⟨_, _, heq⟩ := exists_eq_of_mem_found hmem
  -- Two quantities have two variables, so the warning would be of this one.
  obtain rfl : q = r := name_injective (Event.settingIgnored.inj heq).1
  simp [hevents] at hmem

end Quantity

/-! ## The least length -/

/-- The least length of a snippet is at least one. -/
theorem one_le_minLength (env : Environment) (f : Format) :
    1 ≤ (ofFormat env f).1.analysis.minLength :=
  Nat.le_max_right _ 1

/-- **Natural numbers are read exactly.**

1. A text that writes a number below the bound of the width sets the quantity to this number, where
   the least length of a snippet is raised to one, and there is no warning of the variable.
2. Any other text leaves the default of the format, and there is a warning.
3. The decimal text of every number below the bound is read back as that number.
4. No quantity is beyond the bound of its width.
5. The least length of a snippet is at least one, whether a format is given, read from the
   environment, or taken without an environment. -/
theorem ofFormat_exact (env : Environment) (f : Format) :
    (∀ (q : Quantity) (width : Nat), q.width? = some width →
      (∀ s : String,
        let env' := env.set q.name (Text.toBytes s)
        (∀ n, Numeral.Writes s.toList n → n < 2 ^ width →
          q.get (ofFormat env' f).1 = some (q.raised n) ∧
          ∀ value reason substitute,
            .settingIgnored q.name value reason substitute ∉ (ofFormat env' f).2) ∧
        ((¬ ∃ n, Numeral.Writes s.toList n ∧ n < 2 ^ width) →
          q.get (ofFormat env' f).1 = q.default f ∧
          ∃ event ∈ (ofFormat env' f).2, q.Warns env' event)) ∧
      (∀ n < 2 ^ width,
        q.get (ofFormat (env.set q.name (Text.toBytes (toString n))) f).1 = some (q.raised n)) ∧
      ∀ n, q.get (ofFormat env f).1 = some n → n < 2 ^ width) ∧
    1 ≤ (ofFormat env f).1.analysis.minLength ∧
    1 ≤ (ofEnvironment env).1.analysis.minLength ∧
    1 ≤ (AnalysisSettings.ofFormat f).minLength := by
  refine ⟨fun q width hwidth => ⟨fun s => ⟨?written, ?unwritten⟩, ?back, ?bound⟩,
    one_le_minLength env f, one_le_minLength env _, by cases f <;> decide⟩
  case written =>
    intro n hwrites hn
    have hread : q.read s = .ok n := (Quantity.read_eq_ok_iff hwidth).mpr ⟨hwrites, hn⟩
    have hevents : (q.found (env.set q.name (Text.toBytes s))).2 = [] := by
      rw [Quantity.found_set_of_ok hread]
    exact ⟨Quantity.get_of_writes hwidth hwrites hn, Quantity.settingIgnored_not_mem hevents⟩
  case unwritten =>
    intro hwrites
    obtain ⟨reason, hread⟩ := Quantity.exists_read_eq_error hwidth hwrites
    have hfound : q.found (env.set q.name (Text.toBytes s)) =
        (none, [.settingIgnored q.name s reason q.substitute]) :=
      Quantity.found_set_of_error hread
    refine ⟨?_, .settingIgnored q.name s reason q.substitute, ?_, rfl, s, reason,
      env.set_self q.name _, hread, rfl⟩
    · rw [Quantity.get_ofFormat, hfound]
      exact q.map_raised_default f
    · rw [events_ofFormat, List.mem_flatMap]
      exact ⟨q, q.mem_all, by rw [hfound]; exact List.mem_singleton_self _⟩
  case back =>
    intro n hn
    exact Quantity.get_of_writes hwidth (Numeral.writes_toString n) hn
  case bound =>
    intro n hget
    exact Quantity.get_lt hwidth hget

end Settings

end AnalysisGateway
