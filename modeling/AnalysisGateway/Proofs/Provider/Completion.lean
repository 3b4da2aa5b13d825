import AnalysisGateway.Proofs.Json.Record
import AnalysisGateway.Proofs.Json.Writer
import AnalysisGateway.Provider.Completion

/-!
# Completions that carry a text

A completion as providers write it is read, whatever its spelling and the order of its members, and
the text of its first choice is kept as it is.

The shapes of a completion have fields that are checked and fields that are kept. Their members may
stand in any order: each adds its name to those that have been seen, and only the member of one
name, the slot, changes what is kept.
-/

namespace AnalysisGateway.Completed

open Json

/-! ## Shapes -/

section

variable {α : Type} {depth : Nat} {name : String} {start a : α} {needed : List String}
  {fields : List (Json.Field (Partial α))} {all : List (String × Value)} {slot : String}

/-- The field of the member's name takes its value, and keeps `new` if there is something new. -/
def Takes (fields : List (Json.Field (Partial α))) (depth : Nat) (m : String × Value)
    (new : Option α) : Prop :=
  ∃ f, fields.find? (·.name == m.1) = some f ∧ (∀ p, f.filled p = p.seen.contains m.1) ∧
    Accepts f.read depth m.2 fun p => ⟨m.1 :: p.seen, new.getD p.kept⟩

theorem takes_checked {β : Type} {read : Reader β} {v : Value} {b : β} {field : String}
    (hfind : fields.find? (·.name == field) = some (checked field read))
    (h : Accepts read depth v b) : Takes fields depth (field, v) none := by
  refine ⟨_, hfind, fun _ => rfl, fun s hs => ?_⟩
  have hreads := (h s hs).map fun _ (p : Partial α) => { p with seen := field :: p.seen }
  exact hreads

theorem takes_stored {read : Reader α} {v : Value} {field : String}
    (hfind : fields.find? (·.name == field) = some (stored field read fun new _ => new))
    (h : Accepts read depth v a) : Takes fields depth (field, v) (some a) := by
  refine ⟨_, hfind, fun _ => rfl, fun s hs => ?_⟩
  have hreads := (h s hs).map fun new (p : Partial α) => Partial.mk (field :: p.seen) new
  exact hreads

/-- Members of different names lead on, in any order. What is kept at the end is what the slot has
brought, if it was among them. -/
theorem leads_of_takes (h : ∀ m ∈ all, Takes fields depth m (if m.1 = slot then some a else none))
    (hnodup : (all.map Prod.fst).Nodup) (seen : List String) (kept : α)
    (hseen : ∀ m ∈ all, m.1 ∉ seen) :
    Leads ((shapeOf name start needed fields).Step depth) ⟨seen, kept⟩ all
      ⟨(all.map Prod.fst).reverse ++ seen, if slot ∈ all.map Prod.fst then a else kept⟩ := by
  induction all generalizing seen kept with
  | nil => exact .nil _
  | cons m all ih =>
      obtain ⟨f, hfind, hfilled, haccepts⟩ := h m List.mem_cons_self
      rw [List.map_cons, List.nodup_cons] at hnodup
      have hempty : f.filled ⟨seen, kept⟩ = false := by
        rw [hfilled]
        simpa using hseen m List.mem_cons_self
      have hrest := ih (fun m' hm' => h m' (List.mem_cons_of_mem m hm')) hnodup.2 (m.1 :: seen)
        ((if m.1 = slot then some a else none).getD kept) fun m' hm' => by
          have hne : m'.1 ≠ m.1 := fun heq => hnodup.1 (heq ▸ List.mem_map_of_mem hm')
          simp [hne, hseen m' (List.mem_cons_of_mem m hm')]
      have hfinal : (if slot ∈ all.map Prod.fst then a
            else (if m.1 = slot then some a else none).getD kept) =
          if slot ∈ (m :: all).map Prod.fst then a else kept := by
        by_cases hslot : m.1 = slot
        · simp [hslot]
        · simp only [if_neg hslot, Option.getD_none, List.map_cons, List.mem_cons,
            Ne.symm hslot, false_or]
      rw [hfinal] at hrest
      rw [List.map_cons, List.reverse_cons, List.append_assoc, List.singleton_append]
      exact .cons ⟨f, _, hfind, hempty, haccepts, rfl⟩ hrest

/-- **A shape is read from members in any order**, if each is taken and none is missing. -/
theorem accepts_shapeOf (slot : String) {listed : List (String × Value)} (hperm : all.Perm listed)
    (h : ∀ m ∈ listed, Takes fields depth m (if m.1 = slot then some a else none))
    (hnodup : (listed.map Prod.fst).Nodup) (hslot : slot ∈ listed.map Prod.fst)
    (hneeded : ∀ field ∈ needed, field ∈ listed.map Prod.fst) :
    Accepts (shapeOf name start needed fields).read (depth + 1) (.object all) a := by
  have hnames := hperm.map Prod.fst
  have hleads : Leads ((shapeOf name start needed fields).Step depth) ⟨[], start⟩ all _ :=
    leads_of_takes (fun m hm => h m (hperm.mem_iff.mp hm)) (hnames.nodup_iff.mpr hnodup) [] start
      fun _ _ => List.not_mem_nil
  refine Record.accepts_object hleads ?_
  have hall : needed.find? (fun field =>
      !((all.map Prod.fst).reverse ++ []).contains field) = none := by
    rw [List.find?_eq_none]
    intro field hfield
    simpa using hnames.mem_iff.mpr (hneeded field hfield)
  simp only [shapeOf, hall, if_pos (hnames.mem_iff.mpr hslot)]

end

/-! ## Completions as values -/

/-- The message of an answer: its role and its text, in any order. -/
inductive IsMessage (text : String) : Value → Prop where
  | members {all : List (String × Value)}
      (h : all.Perm [("role", .text "assistant"), ("content", .text text)]) :
      IsMessage text (.object all)

/-- The reasons for which an answer ends. -/
def finishReasons : List String :=
  ["stop", "length", "tool_calls", "content_filter", "function_call"]

/-- A choice: its number, its message and why it ends, in any order. -/
inductive IsChoice (text : String) : Value → Prop where
  | members {all : List (String × Value)} {index : Nat} {message : Value} {reason : String}
      (hindex : index < 2 ^ 32) (hmessage : IsMessage text message)
      (hreason : reason ∈ finishReasons)
      (h : all.Perm [("index", .number (.natural index)), ("message", message),
        ("finish_reason", .text reason)]) : IsChoice text (.object all)

/-- How many tokens were used, in any order. -/
inductive IsUsage : Value → Prop where
  | members {all : List (String × Value)} {asked answered total : Nat} (hasked : asked < 2 ^ 32)
      (hanswered : answered < 2 ^ 32) (htotal : total < 2 ^ 32)
      (h : all.Perm [("prompt_tokens", .number (.natural asked)),
        ("completion_tokens", .number (.natural answered)),
        ("total_tokens", .number (.natural total))]) : IsUsage (.object all)

/-- A completion as a provider writes it, whose only choice has the text: five members, and perhaps
the tokens used, in any order. -/
inductive IsCompletion (text : String) : Value → Prop where
  | members {all usage : List (String × Value)} {id object model : String} {created : Nat}
      {choice : Value} (hcreated : created < 2 ^ 32) (hchoice : IsChoice text choice)
      (husage : ∀ m ∈ usage, m.1 = "usage" ∧ IsUsage m.2) (hcount : usage.length ≤ 1)
      (h : all.Perm ([("id", .text id), ("object", .text object),
        ("created", .number (.natural created)), ("model", .text model),
        ("choices", .list [choice])] ++ usage)) : IsCompletion text (.object all)

section

variable {text : String} {v : Value} {depth : Nat}

theorem accepts_message (h : IsMessage text v) :
    Accepts messageShape.read (depth + 1) v (some text) := by
  obtain @⟨all, hperm⟩ := h
  refine accepts_shapeOf "content" hperm ?_ (by simp) (by simp) (by simp)
  intro m hm
  simp only [List.mem_cons, List.not_mem_nil, or_false] at hm
  obtain rfl | rfl := hm
  · exact takes_checked rfl (accepts_readChoice rfl)
  · exact takes_stored rfl (accepts_readOptional (accepts_readText text) (by simp))

theorem accepts_choice (h : IsChoice text v) :
    Accepts choiceShape.read (depth + 2) v (some text) := by
  obtain @⟨all, index, message, reason, hindex, hmessage, hreason, hperm⟩ := h
  refine accepts_shapeOf "message" hperm ?_ (by simp) (by simp) (by simp)
  intro m hm
  simp only [List.mem_cons, List.not_mem_nil, or_false] at hm
  obtain rfl | rfl | rfl := hm
  · exact takes_checked rfl (accepts_readNatural "u32" hindex)
  · exact takes_stored rfl (accepts_message hmessage)
  · have hword : Accepts (readWordOf finishReasons) (depth + 1) (.text reason) () := by
      simp only [finishReasons, List.mem_cons, List.not_mem_nil, or_false] at hreason
      obtain rfl | rfl | rfl | rfl | rfl := hreason
      all_goals exact accepts_readChoice rfl
    exact takes_checked rfl (accepts_readOptional hword (by simp))

theorem accepts_usage (h : IsUsage v) : Accepts usageShape.read (depth + 1) v () := by
  obtain @⟨all, asked, answered, total, hasked, hanswered, htotal, hperm⟩ := h
  refine accepts_shapeOf "prompt_tokens" hperm ?_ (by simp) (by simp) (by simp)
  intro m hm
  simp only [List.mem_cons, List.not_mem_nil, or_false] at hm
  obtain rfl | rfl | rfl := hm
  · exact takes_checked rfl (accepts_readNatural "u32" hasked)
  · exact takes_checked rfl (accepts_readNatural "u32" hanswered)
  · exact takes_checked rfl (accepts_readNatural "u32" htotal)

theorem accepts_completion (h : IsCompletion text v) :
    Accepts shape.read (depth + 4) v [some text] := by
  obtain @⟨all, usage, id, object, model, created, choice, hcreated, hchoice, husage, hcount,
    hperm⟩ := h
  have hnames : usage.map Prod.fst = [] ∨ usage.map Prod.fst = ["usage"] := by
    match usage, hcount with
    | [], _ => exact .inl rfl
    | [m], _ => exact .inr (by simp [(husage m List.mem_cons_self).1])
  refine accepts_shapeOf "choices" hperm ?_ ?_ (by simp) (by simp)
  · intro m hm
    simp only [List.mem_append, List.mem_cons, List.not_mem_nil, or_false] at hm
    obtain (rfl | rfl | rfl | rfl | rfl) | hm := hm
    · exact takes_checked rfl (accepts_readText id)
    · exact takes_checked rfl (accepts_readText object)
    · exact takes_checked rfl (accepts_readNatural "u32" hcreated)
    · exact takes_checked rfl (accepts_readText model)
    · exact takes_stored rfl (accepts_readList (.cons (accepts_choice hchoice) .nil))
    · obtain ⟨name, use⟩ := m
      obtain ⟨rfl, huse⟩ : name = "usage" ∧ IsUsage use := husage _ hm
      have hnull : use ≠ .null := by rintro rfl; cases huse
      exact takes_checked rfl (accepts_readOptional (accepts_usage huse) hnull)
  · rw [List.map_append]
    obtain hnone | hone := hnames
    · rw [hnone]; simp
    · rw [hone]; simp

end

/-- A body that is read as a completion whose first choice has the text. -/
def Carries (text : String) (body : Bytes) : Prop :=
  ∃ c, Completed.read body = .ok c ∧ c.choices.head? = some (some text)

/-- **Every spelling of a completion carries its text**, character for character. -/
theorem carries_of_isCompletion {text : String} {v : Value} (h : IsCompletion text v)
    {before s after : List Char} (hbefore : Blanks before) (hs : Spells greatestDepth v s)
    (hafter : Blanks after) : Carries text (Text.encode (before ++ s ++ after)) := by
  have haccepts : Accepts shape.read 127 v [some text] := accepts_completion h
  have hread := haccepts.readWhole_eq hbefore hs hafter
  refine ⟨⟨[some text]⟩, ?_, rfl⟩
  rw [Completed.read, hread]
  rfl

/-! ## Written completions -/

section

variable (model text : String)

/-- The message of a written completion. -/
def writtenMessage : List (String × Value) := [("role", .text "assistant"), ("content", .text text)]

/-- The choice of a written completion. -/
def writtenChoice : List (String × Value) :=
  [("index", .number (.natural 0)), ("message", .object (writtenMessage text)),
    ("finish_reason", .text "stop")]

/-- The members of a written completion. -/
def writtenMembers : List (String × Value) :=
  [("id", .text "completion"), ("object", .text "chat.completion"),
    ("created", .number (.natural 1)), ("model", .text model),
    ("choices", .list [.object (writtenChoice text)])]

theorem isCompletion_writtenMembers : IsCompletion text (.object (writtenMembers model text)) := by
  have hmessage : IsMessage text (.object (writtenMessage text)) := .members (.refl _)
  have hchoice : IsChoice text (.object (writtenChoice text)) :=
    .members (by decide) hmessage (by decide) (.refl _)
  have husage : ∀ m ∈ ([] : List (String × Value)), m.1 = "usage" ∧ IsUsage m.2 := by simp
  exact .members (by decide) hchoice husage (Nat.zero_le 1) (.refl _)

theorem spells_written :
    Spells greatestDepth (.object (writtenMembers model text)) (written model (some text)) := by
  have hmessage : Spells 124 (.object (writtenMessage text))
      (writtenObject [("role", writtenString "assistant"), ("content", writtenString text)]) :=
    .object (elements_writtenMembers (.cons ⟨rfl, spells_writtenString 123 "assistant"⟩
      (.cons ⟨rfl, spells_writtenString 123 text⟩ .nil)))
  have hchoice : Spells 125 (.object (writtenChoice text)) (writtenObject [
      ("index", writtenNatural 0), ("message", _), ("finish_reason", writtenString "stop")]) :=
    .object (elements_writtenMembers (.cons ⟨rfl, spells_writtenNatural 124 (by decide)⟩
      (.cons ⟨rfl, hmessage⟩ (.cons ⟨rfl, spells_writtenString 124 "stop"⟩ .nil))))
  have hchoices : Spells 126 (.list [.object (writtenChoice text)]) _ :=
    .list (elements_separated (.cons hchoice .nil))
  refine .object (elements_writtenMembers ?_)
  exact .cons ⟨rfl, spells_writtenString 126 "completion"⟩ <|
    .cons ⟨rfl, spells_writtenString 126 "chat.completion"⟩ <|
    .cons ⟨rfl, spells_writtenNatural 126 (by decide)⟩ <|
    .cons ⟨rfl, spells_writtenString 126 model⟩ <| .cons ⟨rfl, hchoices⟩ .nil

/-- A completion that is written with a text carries it. -/
theorem carries_written : Carries text (Text.encode (written model (some text))) := by
  have h := carries_of_isCompletion (isCompletion_writtenMembers model text) blanks_nil
    (spells_written model text) blanks_nil
  simpa using h

end

end AnalysisGateway.Completed
