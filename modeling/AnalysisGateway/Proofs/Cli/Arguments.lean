import Mathlib.Data.List.Nodup
import AnalysisGateway.Proofs.Cli.Step

/-!
# Accepted command lines

Which command lines are accepted, and what they ask for, said without the order in which they are
read. The arguments list values of options, one after another (`Lists`); no option is given twice,
each value is one that its option can have (`IsValue`), and the options asked for are these values
(`Options.Holds`). `read_eq_options_iff` is the equivalence.

Since a value may be pending while the next argument is read, the invariant speaks of it: a reading
that still has arguments before it accepts them exactly if they list values that can be taken in
after the pending one (`Lists.readFrom_eq`, `exists_lists_of_readFrom`).
-/

namespace AnalysisGateway.Cli

/-! ## What arguments list -/

/-- Arguments list values of options, each behind its option or in one argument with it. Two hyphens
may end them. -/
inductive Lists : List (List Char) → List (Argument × String) → Prop where
  | nil : Lists [] []
  | closed : Lists [['-', '-']] []
  | joined {a : Argument} {v : List Char} {rest : List (List Char)}
      {items : List (Argument × String)} (hvalue : a.takesValue = true) (h : Lists rest items) :
      Lists ((a.option ++ '=' :: v) :: rest) ((a, String.ofList v) :: items)
  | apart {a : Argument} {v : List Char} {rest : List (List Char)}
      {items : List (Argument × String)} (hvalue : a.takesValue = true) (hplain : IsPlain v)
      (h : Lists rest items) : Lists (a.option :: v :: rest) ((a, String.ofList v) :: items)
  | jsonLogs {rest : List (List Char)} {items : List (Argument × String)} (h : Lists rest items) :
      Lists (Argument.jsonLogs.option :: rest) ((.jsonLogs, "") :: items)

/-- A value that an argument can have. -/
def IsValue : Argument → String → Prop
  | .portNumber, v => ∃ n, readPort v.toList = .ok n
  | .format, v => ∃ f, Format.read v = .ok f
  | .host, _ | .jsonLogs, _ | .help, _ => True

/-- Options are the listed values. -/
structure Options.Holds (o : Options) (items : List (Argument × String)) : Prop where
  host : ∀ v, o.host = some v ↔ (.host, v) ∈ items
  portNumber : ∀ n, o.portNumber = some n ↔
    ∃ v, (.portNumber, v) ∈ items ∧ readPort v.toList = .ok n
  format : ∀ f, o.format = some f ↔ ∃ v, (.format, v) ∈ items ∧ Format.read v = .ok f
  jsonLogs : o.jsonLogs = true ↔ ∃ v, (.jsonLogs, v) ∈ items

/-! ## All arguments -/

open Progress

variable {p q : Progress} {o : Options} {s : List Char} {args : List (List Char)}
  {items : List (Argument × String)}

/-- At the end, what is pending is taken in. -/
theorem readFrom_nil_eq_iff :
    readFrom p [] = .options o ↔
      p.wantsValue = false ∧ ∃ q, Takes p.free p.pending q ∧ q.options = o := by
  simp only [← exists_and_left, ← and_assoc, ← settle_eq_iff]
  rw [readFrom]
  split
  · next hsettle => simp [hsettle]
  · next hsettle => simp [hsettle]

theorem readFrom_cons (hs : s ≠ ['-', '-']) (p : Progress) (rest : List (List Char)) :
    readFrom p (s :: rest) =
      match p.step s with
      | .ok p => readFrom p rest
      | .error reading => reading := by
  rw [readFrom.eq_def]
  split
  · next heq => exact absurd heq (List.cons_ne_nil _ _)
  · next heq => exact absurd (List.cons.inj heq).1 hs
  · next heq =>
    obtain ⟨rfl, rfl⟩ := List.cons.inj heq
    rfl

/-- What is read goes on with what its first argument does. -/
theorem exists_steps_of_readFrom (hs : s ≠ ['-', '-']) {rest : List (List Char)}
    (h : readFrom p (s :: rest) = .options o) :
    ∃ next, Steps p s next ∧ readFrom next rest = .options o := by
  obtain ⟨hsteps, hne⟩ := p.turns_step s
  rw [readFrom_cons hs] at h
  cases hstep : p.step s with
  | ok next =>
      rw [hstep] at h
      exact ⟨next, hsteps next hstep, h⟩
  | error reading =>
      rw [hstep] at h
      exact absurd (congrArg Except.error h) (hstep ▸ hne o)

/-- Two hyphens end the arguments. -/
theorem readFrom_closed_eq_iff {rest : List (List Char)} :
    readFrom p (['-', '-'] :: rest) = .options o ↔ rest = [] ∧ readFrom p [] = .options o := by
  cases rest with
  | nil => simp [readFrom]
  | cons s rest => simp [readFrom]

/-- Nothing waits once values have been taken in. -/
theorem Progress.Takes.idle (h : Takes p.free items q) :
    q.wantsValue = false ∧ q.free = q ∧ q.pending = [] := by
  have hwaiting : q.waiting = none := h.waiting_eq
  obtain ⟨options, given, waiting⟩ := q
  obtain rfl : waiting = none := hwaiting
  exact ⟨rfl, rfl, rfl⟩

/-- Where a value is waited for, only a value can follow. -/
theorem Progress.Steps.value_of_wantsValue {next : Progress} (h : Steps p s next)
    (hp : p.wantsValue = true) :
    IsPlain s ∧ ∃ a, p.waiting = some (a, none) ∧
      next = { p with waiting := some (a, some (String.ofList s)) } := by
  have hnot (hfalse : p.wantsValue = false) : False := Bool.false_ne_true (hfalse.symm.trans hp)
  cases h with
  | joined _ h => exact (hnot (takeNow_eq_ok_iff.mp h).1).elim
  | option _ h => exact (hnot (settled_waiting_eq_ok_iff.mp h).1).elim
  | jsonLogs h => exact (hnot (takeNow_eq_ok_iff.mp h).1).elim
  | value hplain hwaiting => exact ⟨hplain, _, hwaiting, rfl⟩

/-- Where a value is waited for, the arguments go on with it. -/
theorem exists_value_of_readFrom {a : Argument}
    (h : readFrom { p with waiting := some (a, none) } args = .options o) :
    ∃ v rest, args = v :: rest ∧ IsPlain v ∧
      readFrom { p with waiting := some (a, some (String.ofList v)) } rest = .options o := by
  cases args with
  | nil => exact absurd (readFrom_nil_eq_iff.mp h).1 nofun
  | cons v rest =>
      by_cases hv : v = ['-', '-']
      · subst hv
        exact absurd (readFrom_nil_eq_iff.mp (readFrom_closed_eq_iff.mp h).2).1 nofun
      obtain ⟨next, hsteps, hrest⟩ := exists_steps_of_readFrom hv h
      obtain ⟨hplain, b, hwaiting, rfl⟩ := hsteps.value_of_wantsValue rfl
      obtain rfl : a = b := (Prod.mk.inj (Option.some.inj hwaiting)).1
      exact ⟨v, rest, rfl, hplain, hrest⟩

/-- **Accepted arguments list values that can be taken in after the pending one.** The induction is
on the number of arguments, since an option and its value go together. -/
theorem exists_lists_of_readFrom (hp : p.wantsValue = false) (h : readFrom p args = .options o) :
    ∃ items q, Lists args items ∧ Takes p.free (p.pending ++ items) q ∧ q.options = o := by
  induction hlength : args.length using Nat.strongRecOn generalizing p args with
  | ind n ih =>
      -- What is taken in at once leaves nothing pending for the arguments that follow.
      have hnow {a : Argument} {v : String} {next : Progress} {rest : List (List Char)}
          (hlt : rest.length < n) (htake : p.takeNow a v = .ok next)
          (hrest : readFrom next rest = .options o) :
          ∃ items q, Lists rest items ∧ Takes p.free (p.pending ++ (a, v) :: items) q ∧
            q.options = o := by
        obtain ⟨-, htakes⟩ := takeNow_eq_ok_iff.mp htake
        obtain ⟨hwants, hfree, hpending⟩ := htakes.idle
        obtain ⟨items, q, hlists, hmore, ho⟩ := ih _ hlt hwants hrest rfl
        rw [hfree, hpending] at hmore
        refine ⟨items, q, hlists, ?_, ho⟩
        rw [List.append_cons, takes_append_iff]
        exact ⟨next, htakes, hmore⟩
      cases args with
      | nil =>
          obtain ⟨-, q, htakes, ho⟩ := readFrom_nil_eq_iff.mp h
          exact ⟨[], q, .nil, by rwa [List.append_nil], ho⟩
      | cons s rest =>
          rw [List.length_cons] at hlength
          by_cases hs : s = ['-', '-']
          · subst hs
            obtain ⟨rfl, hend⟩ := readFrom_closed_eq_iff.mp h
            obtain ⟨-, q, htakes, ho⟩ := readFrom_nil_eq_iff.mp hend
            exact ⟨[], q, .closed, by rwa [List.append_nil], ho⟩
          obtain ⟨next, hsteps, hrest⟩ := exists_steps_of_readFrom hs h
          cases hsteps with
          | joined hvalue htake =>
              obtain ⟨items, q, hlists, htakes, ho⟩ := hnow (by omega) htake hrest
              exact ⟨_, q, .joined hvalue hlists, htakes, ho⟩
          | jsonLogs htake =>
              obtain ⟨items, q, hlists, htakes, ho⟩ := hnow (by omega) htake hrest
              exact ⟨_, q, .jsonLogs hlists, htakes, ho⟩
          | option hvalue hsettled =>
              obtain ⟨-, r, htakes, rfl⟩ := settled_waiting_eq_ok_iff.mp hsettled
              obtain ⟨v, rest, rfl, hplain, hrest⟩ := exists_value_of_readFrom hrest
              rw [List.length_cons] at hlength
              obtain ⟨items, q, hlists, hmore, ho⟩ := ih _ (by omega) rfl hrest rfl
              refine ⟨_, q, .apart hvalue hplain hlists, ?_, ho⟩
              rw [takes_append_iff]
              refine ⟨r, htakes, ?_⟩
              rw [← htakes.idle.2.1]
              exact hmore
          | value _ hwaiting =>
              rw [wantsValue, hwaiting] at hp
              contradiction

/-- An option with its value, or a flag, is taken in at once, and the reading goes on. -/
theorem exists_readFrom_cons_eq {a : Argument} {v : String} (hs : s ≠ ['-', '-'])
    (hstep : p.step s = p.takeNow a v) (hp : p.wantsValue = false)
    (htakes : Takes p.free (p.pending ++ (a, v) :: items) q) (rest : List (List Char)) :
    ∃ next : Progress, next.wantsValue = false ∧ Takes next.free (next.pending ++ items) q ∧
      readFrom p (s :: rest) = readFrom next rest := by
  rw [List.append_cons, takes_append_iff] at htakes
  obtain ⟨next, hnext, hmore⟩ := htakes
  obtain ⟨hwants, hfree, hpending⟩ := hnext.idle
  refine ⟨next, hwants, by rwa [hfree, hpending], ?_⟩
  rw [readFrom_cons hs, hstep, takeNow_eq_ok_iff.mpr ⟨hp, hnext⟩]

theorem IsPlain.ne_closed (h : IsPlain s) : s ≠ ['-', '-'] := h '-' []

/-- **Arguments that list values which can be taken in are accepted.** -/
theorem Lists.readFrom_eq (h : Lists args items) (hp : p.wantsValue = false)
    (htakes : Takes p.free (p.pending ++ items) q) : readFrom p args = .options q.options := by
  induction h generalizing p with
  | nil =>
      rw [List.append_nil] at htakes
      exact readFrom_nil_eq_iff.mpr ⟨hp, q, htakes, rfl⟩
  | closed =>
      rw [List.append_nil] at htakes
      exact readFrom_closed_eq_iff.mpr ⟨rfl, readFrom_nil_eq_iff.mpr ⟨hp, q, htakes, rfl⟩⟩
  | @joined a v rest items hvalue _ ih =>
      obtain ⟨next, hwants, hmore, hread⟩ :=
        exists_readFrom_cons_eq (a.option_ne _) (step_joined hvalue v) hp htakes rest
      rw [hread]
      exact ih hwants hmore
  | @apart a v rest items hvalue hplain _ ih =>
      rw [takes_append_iff] at htakes
      obtain ⟨next, hnext, hmore⟩ := htakes
      have hsettled : (p.settled fun p => .ok { p with waiting := some (a, none) }) =
          .ok { next with waiting := some (a, none) } :=
        settled_waiting_eq_ok_iff.mpr ⟨hp, next, hnext, rfl⟩
      have hname : a.option ≠ ['-', '-'] := by simpa using a.option_ne []
      rw [readFrom_cons hname, step_option hvalue, hsettled]
      simp only [readFrom_cons hplain.ne_closed, step_plain hplain, plain]
      refine ih rfl ?_
      rw [← hnext.idle.2.1] at hmore
      exact hmore
  | @jsonLogs rest items _ ih =>
      obtain ⟨next, hwants, hmore, hread⟩ :=
        exists_readFrom_cons_eq (by decide) step_jsonLogs hp htakes rest
      rw [hread]
      exact ih hwants hmore

/-! ## The options -/

section

variable {a : Argument} {v : String} {before : List (Argument × String)} {o' : Options}

/-- Options are determined by the values that they hold. -/
theorem Options.Holds.unique (h : o.Holds items) (h' : o'.Holds items) : o = o' := by
  obtain ⟨host, portNumber, format, jsonLogs⟩ := o
  obtain ⟨host', portNumber', format', jsonLogs'⟩ := o'
  congr 1
  · exact Option.ext fun v => (h.host v).trans (h'.host v).symm
  · exact Option.ext fun n => (h.portNumber n).trans (h'.portNumber n).symm
  · exact Option.ext fun f => (h.format f).trans (h'.format f).symm
  · exact Bool.eq_iff_iff.mpr (h.jsonLogs.trans h'.jsonLogs.symm)

theorem Options.holds_nil : Options.Holds {} [] := by
  constructor <;> simp

/-- An option can take exactly its values. -/
theorem exists_withValue_iff : (∃ o', o.withValue a v = .ok o') ↔ IsValue a v := by
  cases a with
  | host => simp [Options.withValue, IsValue]
  | jsonLogs => simp [Options.withValue, IsValue]
  | help => simp [Options.withValue, IsValue]
  | portNumber =>
      rw [Options.withValue, IsValue]
      cases readPort v.toList with
      | ok n => simp [Except.map]
      | error reason => simp [Except.map]
  | format =>
      rw [Options.withValue, IsValue]
      cases Format.read v with
      | ok f => simp
      | error unknown => simp

/-- The value of an option that has not been given is one more value that the options hold. -/
theorem Options.Holds.withValue (h : o.Holds items) (ha : a ∉ items.map Prod.fst)
    (hvalue : o.withValue a v = .ok o') : o'.Holds (items ++ [(a, v)]) := by
  have hnone (w : String) : (a, w) ∉ items := fun hmem => ha (List.mem_map_of_mem hmem)
  cases a with
  | host =>
      obtain rfl := Except.ok.inj hvalue
      exact ⟨by simp [hnone, eq_comm], by simpa using h.portNumber, by simpa using h.format,
        by simpa using h.jsonLogs⟩
  | portNumber =>
      rw [Options.withValue] at hvalue
      cases hread : readPort v.toList with
      | error reason => simp [hread, Except.map] at hvalue
      | ok n =>
          rw [hread] at hvalue
          obtain rfl := Except.ok.inj hvalue
          exact ⟨by simpa using h.host, by simp [hnone, hread], by simpa using h.format,
            by simpa using h.jsonLogs⟩
  | format =>
      rw [Options.withValue] at hvalue
      cases hread : Format.read v with
      | error unknown => simp [hread] at hvalue
      | ok f =>
          rw [hread] at hvalue
          obtain rfl := Except.ok.inj hvalue
          exact ⟨by simpa using h.host, by simpa using h.portNumber, by simp [hnone, hread],
            by simpa using h.jsonLogs⟩
  | jsonLogs =>
      obtain rfl := Except.ok.inj hvalue
      exact ⟨by simpa using h.host, by simpa using h.portNumber, by simpa using h.format, by simp⟩
  | help =>
      obtain rfl := Except.ok.inj hvalue
      exact ⟨by simpa using h.host, by simpa using h.portNumber, by simpa using h.format,
        by simpa using h.jsonLogs⟩

end

/-- What has been taken in: each argument once, with a value that it can have. -/
structure Progress.Took (p : Progress) (items : List (Argument × String)) : Prop where
  given_eq : p.given = items.map Prod.fst
  nodup : (items.map Prod.fst).Nodup
  isValue : ∀ item ∈ items, IsValue item.1 item.2
  holds : p.options.Holds items

section

variable {a : Argument} {v : String} {before : List (Argument × String)}

theorem took_nil : ({} : Progress).Took [] :=
  ⟨rfl, List.nodup_nil, nofun, Options.holds_nil⟩

theorem Progress.Took.take (h : p.Took before) (htake : p.take a v = (q, none)) :
    q.Took (before ++ [(a, v)]) := by
  obtain ⟨hnot, o, hvalue, rfl⟩ := take_eq_iff.mp htake
  rw [h.given_eq] at hnot
  refine ⟨by simp [h.given_eq], ?_, ?_, h.holds.withValue hnot hvalue⟩
  · rw [List.map_append, List.map_singleton, ← List.concat_eq_append]
    exact h.nodup.concat hnot
  · intro item hitem
    obtain hitem | hitem := List.mem_append.mp hitem
    · exact h.isValue item hitem
    · rw [List.mem_singleton.mp hitem]
      exact exists_withValue_iff.mp ⟨o, hvalue⟩

theorem Progress.Took.takes (h : p.Took before) (htakes : Takes p items q) :
    q.Took (before ++ items) := by
  induction htakes generalizing before with
  | nil => rwa [List.append_nil]
  | cons htake _ ih =>
      rw [List.append_cons]
      exact ih (h.take htake)

/-- Values of arguments that have not been given can be taken in. -/
theorem Progress.Took.exists_takes (h : p.Took before)
    (hnodup : ((before ++ items).map Prod.fst).Nodup)
    (hvalues : ∀ item ∈ items, IsValue item.1 item.2) : ∃ q, Takes p items q := by
  induction items generalizing p before with
  | nil => exact ⟨p, .nil⟩
  | cons item items ih =>
      obtain ⟨a, v⟩ := item
      obtain ⟨hvalue, hmore⟩ := List.forall_mem_cons.mp hvalues
      obtain ⟨o, ho⟩ := (exists_withValue_iff (o := p.options)).mpr hvalue
      have hnot : a ∉ p.given := by
        rw [h.given_eq]
        rw [List.map_append, List.nodup_append] at hnodup
        exact fun hmem => hnodup.2.2 a hmem a List.mem_cons_self rfl
      have htake := take_eq_iff.mpr ⟨hnot, o, ho, rfl⟩
      rw [List.append_cons] at hnodup
      obtain ⟨q, hq⟩ := ih (h.take htake) hnodup hmore
      exact ⟨q, .cons htake hq⟩

end

/-- **A command line is accepted exactly if it lists values of options**, none of them twice and
each one a value of its option, and then the options are these values. -/
theorem read_eq_options_iff {arguments : List String} :
    read arguments = .options o ↔
      ∃ items, Lists (arguments.map String.toList) items ∧ (items.map Prod.fst).Nodup ∧
        (∀ item ∈ items, IsValue item.1 item.2) ∧ o.Holds items := by
  constructor
  · intro h
    obtain ⟨items, q, hlists, htakes, rfl⟩ := exists_lists_of_readFrom rfl h
    obtain ⟨-, hnodup, hvalues, hholds⟩ := took_nil.takes htakes
    exact ⟨items, hlists, hnodup, hvalues, hholds⟩
  · rintro ⟨items, hlists, hnodup, hvalues, hholds⟩
    obtain ⟨q, htakes⟩ := took_nil.exists_takes hnodup hvalues
    obtain rfl := hholds.unique (took_nil.takes htakes).holds
    exact hlists.readFrom_eq rfl htakes

end AnalysisGateway.Cli
