import Mathlib.Data.List.Basic
import AnalysisGateway.Cli.Arguments
import AnalysisGateway.Proofs.Text.Split

/-!
# One command-line argument

What a single argument does to the reading of a command line. Reading is one step behind: a value is
looked at when the next option comes, or at the end. So a reading has taken in some values, and one
may still be pending (`Progress.pending`); an option or a flag takes that in first
(`takeNow_eq_ok_iff`, `settled_waiting_eq_ok_iff`).

`Progress.Steps` says what an argument can do, and `Progress.turns_step` that it does one of these
things or ends the reading without options.
-/

namespace AnalysisGateway.Cli

/-- A text that can stand behind the option that it is a value of: it does not begin with a hyphen,
or is no more than that. -/
def IsPlain (s : List Char) : Prop := ∀ c rest, s ≠ '-' :: c :: rest

/-- The argument that names an option. -/
def Argument.option (a : Argument) : List Char := '-' :: '-' :: a.name.toList

/-! ## Names -/

namespace Argument

variable {a : Argument} {name : List Char}

theorem ofName?_eq_some_iff : ofName? name = some a ↔ name = a.name.toList := by
  constructor
  · intro h
    have hname := List.find?_some h
    exact (beq_iff_eq.mp hname).symm
  · rintro rfl
    cases a <;> decide

theorem equals_not_mem_name (a : Argument) : '=' ∉ a.name.toList := by
  cases a <;> decide

theorem option_ne (a : Argument) (s : List Char) : a.option ++ s ≠ ['-', '-'] := by
  cases a <;> simp [option, name]

end Argument

/-! ## Taking values in -/

namespace Progress

variable {p q r : Progress} {a : Argument} {v : String} {items more : List (Argument × String)}

/-- Values are taken in one after another. -/
inductive Takes : Progress → List (Argument × String) → Progress → Prop where
  | nil {p : Progress} : Takes p [] p
  | cons {p q r : Progress} {a : Argument} {v : String} {items : List (Argument × String)}
      (htake : p.take a v = (q, none)) (h : Takes q items r) : Takes p ((a, v) :: items) r

/-- What waits for its value to be looked at. -/
def pending (p : Progress) : List (Argument × String) :=
  match p.waiting with
  | some (a, some v) => [(a, v)]
  | _ => []

/-- The reading without what waits. -/
def free (p : Progress) : Progress := { p with waiting := none }

theorem takes_append_iff :
    Takes p (items ++ more) r ↔ ∃ q, Takes p items q ∧ Takes q more r := by
  induction items generalizing p with
  | nil =>
      constructor
      · exact fun h => ⟨p, .nil, h⟩
      · rintro ⟨_, ⟨⟩, h⟩
        exact h
  | cons item items ih =>
      constructor
      · rintro (_ | ⟨htake, h⟩)
        obtain ⟨q, hitems, hmore⟩ := ih.mp h
        exact ⟨q, .cons htake hitems, hmore⟩
      · rintro ⟨q, _ | ⟨htake, hitems⟩, hmore⟩
        exact .cons htake (ih.mpr ⟨q, hitems, hmore⟩)

theorem takes_singleton_iff : Takes p [(a, v)] q ↔ p.take a v = (q, none) := by
  constructor
  · rintro (_ | ⟨htake, ⟨⟩⟩)
    exact htake
  · exact fun h => .cons h .nil

/-- A value is taken in if its option has not been given before, and can have it. -/
theorem take_eq_iff :
    p.take a v = (q, none) ↔ a ∉ p.given ∧ ∃ o, p.options.withValue a v = .ok o ∧
      q = { p with given := p.given ++ [a], options := o } := by
  rw [take]
  split
  · next h => simp_all
  · next h =>
    simp only [List.contains_iff_mem] at h
    simp only [h, not_false_eq_true, true_and]
    split
    · next o ho => simp [ho, eq_comm]
    · next reason ho => simp [ho]

/-- What waits stays as it is. -/
theorem waiting_of_take (h : p.take a v = (q, none)) : q.waiting = p.waiting := by
  obtain ⟨-, o, -, rfl⟩ := take_eq_iff.mp h
  rfl

theorem Takes.waiting_eq (h : Takes p items q) : q.waiting = p.waiting := by
  induction h with
  | nil => rfl
  | cons htake _ ih => rw [ih, waiting_of_take htake]

/-- The waiting argument is settled by taking in what is pending, unless it has no value yet. -/
theorem settle_eq_iff :
    p.settle = (q, none) ↔ p.wantsValue = false ∧ Takes p.free p.pending q := by
  obtain ⟨options, given, waiting⟩ := p
  rcases waiting with _ | ⟨a, _ | v⟩
  · constructor
    · rintro ⟨⟩
      exact ⟨rfl, .nil⟩
    · rintro ⟨-, ⟨⟩⟩
      rfl
  · simp [settle, wantsValue]
  · exact (takes_singleton_iff (p := ⟨options, given, none⟩)).symm.trans
      ⟨fun h => ⟨rfl, h⟩, And.right⟩

/-- A value that is given with its option, or a flag, is taken in after what is pending. -/
theorem takeNow_eq_ok_iff :
    p.takeNow a v = .ok q ↔ p.wantsValue = false ∧ Takes p.free (p.pending ++ [(a, v)]) q := by
  simp only [takes_append_iff, takes_singleton_iff, ← exists_and_left, ← and_assoc, ← settle_eq_iff]
  rw [takeNow, settled]
  split
  · next hsettle => simp [hsettle]
  · next r hsettle =>
    simp only [hsettle, Prod.mk.injEq, and_true, exists_eq_left']
    split
    · next htake => simp [htake]
    · next htake => simp [htake]

/-- An option waits for its value after what is pending. -/
theorem settled_waiting_eq_ok_iff {next : Progress} :
    (p.settled fun p => .ok { p with waiting := some (a, none) }) = .ok next ↔
      p.wantsValue = false ∧ ∃ q, Takes p.free p.pending q ∧
        next = { q with waiting := some (a, none) } := by
  simp only [← exists_and_left, ← and_assoc, ← settle_eq_iff]
  rw [settled]
  split
  · next hsettle => simp [hsettle]
  · next r hsettle => simp [hsettle, eq_comm]

/-! ## One argument -/

/-- The reading after an argument other than two hyphens. -/
def step (p : Progress) (s : List Char) : Except Reading Progress :=
  match s with
  | '-' :: '-' :: name => p.long name
  | '-' :: c :: _ => p.short c
  | s => p.plain s

theorem step_joined (hvalue : a.takesValue = true) (v : List Char) :
    p.step (a.option ++ '=' :: v) = p.takeNow a (String.ofList v) := by
  have hlong : p.step (a.option ++ '=' :: v) = p.long (a.name.toList ++ '=' :: v) := rfl
  rw [hlong, long, Text.cut_append a.equals_not_mem_name]
  simp only [Argument.ofName?_eq_some_iff.mpr rfl, hvalue]

theorem step_option (hvalue : a.takesValue = true) :
    p.step a.option = p.settled fun p => .ok { p with waiting := some (a, none) } := by
  have hlong : p.step a.option = p.long a.name.toList := rfl
  rw [hlong, long, Text.cut_of_not_mem a.equals_not_mem_name]
  simp only [Argument.ofName?_eq_some_iff.mpr rfl, hvalue]

theorem step_jsonLogs : p.step Argument.jsonLogs.option = p.takeNow .jsonLogs "" := rfl

theorem step_plain {s : List Char} (h : IsPlain s) : p.step s = p.plain s := by
  unfold step
  split
  · exact absurd rfl (h _ _)
  · exact absurd rfl (h _ _)
  · rfl

/-- **What an argument can do**: give a value or a flag, name an option, or be the value that is
waited for. -/
inductive Steps (p : Progress) : List Char → Progress → Prop where
  | joined {a : Argument} {v : List Char} {next : Progress} (hvalue : a.takesValue = true)
      (h : p.takeNow a (String.ofList v) = .ok next) : Steps p (a.option ++ '=' :: v) next
  | option {a : Argument} {next : Progress} (hvalue : a.takesValue = true)
      (h : (p.settled fun p => .ok { p with waiting := some (a, none) }) = .ok next) :
      Steps p a.option next
  | jsonLogs {next : Progress} (h : p.takeNow .jsonLogs "" = .ok next) :
      Steps p Argument.jsonLogs.option next
  | value {a : Argument} {v : List Char} (hplain : IsPlain v)
      (hwaiting : p.waiting = some (a, none)) :
      Steps p v { p with waiting := some (a, some (String.ofList v)) }

/-- Where an argument leads: it does what an argument can do, or the reading ends, but not with
options. -/
structure Turns (p : Progress) (s : List Char) (result : Except Reading Progress) : Prop where
  steps : ∀ next, result = .ok next → Steps p s next
  ne_options : ∀ o, result ≠ .error (.options o)

theorem settled_ne_options {next : Progress → Except Reading Progress}
    (hnext : ∀ q o, next q ≠ .error (.options o)) (o : Options) :
    p.settled next ≠ .error (.options o) := by
  rw [settled]
  split
  · simp
  · exact hnext _ o

theorem takeNow_ne_options (o : Options) : p.takeNow a v ≠ .error (.options o) := by
  refine settled_ne_options (fun q o => ?_) o
  split
  · simp
  · simp

theorem turns_error {s : List Char} {reading : Reading} (h : ∀ o, reading ≠ .options o) :
    Turns p s (.error reading) :=
  ⟨fun _ hok => by simp at hok, fun o heq => h o (Except.error.inj heq)⟩

theorem turns_refused {s : List Char} (r : Refusal) : Turns p s (.error (.refused r)) :=
  turns_error fun _ => by simp

theorem turns_help {s : List Char} : Turns p s p.help := by
  rw [help, settled]
  split
  · exact turns_refused _
  · exact turns_error fun _ => by simp

theorem turns_long (p : Progress) (name : List Char) :
    Turns p ('-' :: '-' :: name) (p.long name) := by
  obtain ⟨name, v, hname, rfl⟩ | hname := Text.exists_append_or_not_mem '=' name
  · cases hargument : Argument.ofName? name with
    | none =>
        simp only [long, Text.cut_append hname, hargument]
        exact turns_refused _
    | some a =>
        obtain rfl := Argument.ofName?_eq_some_iff.mp hargument
        cases hvalue : a.takesValue with
        | true =>
            simp only [long, Text.cut_append hname, hargument, hvalue]
            exact ⟨fun next h => .joined hvalue h, takeNow_ne_options⟩
        | false =>
            simp only [long, Text.cut_append hname, hargument, hvalue]
            exact turns_refused _
  · cases hargument : Argument.ofName? name with
    | none =>
        simp only [long, Text.cut_of_not_mem hname, hargument]
        exact turns_refused _
    | some a =>
        obtain rfl := Argument.ofName?_eq_some_iff.mp hargument
        cases hvalue : a.takesValue with
        | true =>
            simp only [long, Text.cut_of_not_mem hname, hargument, hvalue]
            exact ⟨fun next h => .option hvalue h, settled_ne_options fun _ _ => by simp⟩
        | false =>
            simp only [long, Text.cut_of_not_mem hname, hargument, hvalue]
            split
            · exact turns_help
            · next hhelp =>
              obtain rfl : a = .jsonLogs := by cases a <;> simp_all [Argument.takesValue]
              exact ⟨fun next h => .jsonLogs h, takeNow_ne_options⟩

/-- **Every argument does what an argument can do**, or ends the reading without options. -/
theorem turns_step (p : Progress) (s : List Char) : Turns p s (p.step s) := by
  unfold step
  split
  · exact turns_long p _
  · rw [short]
    split
    · exact turns_help
    · exact turns_refused _
  · next hlong hshort =>
    have hplain : IsPlain s := fun c rest h => hshort c rest h
    rw [plain]
    split
    · next a hwaiting =>
      refine ⟨?_, fun _ => by simp⟩
      rintro _ ⟨⟩
      exact .value hplain hwaiting
    · exact turns_refused _

end Progress

end AnalysisGateway.Cli
