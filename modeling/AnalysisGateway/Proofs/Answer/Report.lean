import Mathlib.Data.List.Nodup
import AnalysisGateway.Answer
import AnalysisGateway.Proofs.Json.Value
import AnalysisGateway.Proofs.Json.Writer
import AnalysisGateway.Proofs.Text.Split

/-!
# Reports in answers

An answer that holds an object with the members of a report is read as that report, whatever the
spelling of the object, whatever other members it has, and whatever prose stands around it. Prose
before the object may hold closing braces and prose behind it opening ones; braces within the
object's own texts never matter, since only the outermost two are looked for.
-/

namespace AnalysisGateway

/-! ## The span -/

/-- The outermost braces are found if no other brace of their kind stands outside. -/
theorem braceSpan?_append {before inner after : List Char} (hbefore : '\x7b' ∉ before)
    (hafter : '\x7d' ∉ after) :
    braceSpan? (before ++ ('\x7b' :: inner ++ ['\x7d']) ++ after) =
      some ('\x7b' :: inner ++ ['\x7d']) := by
  have hlast : '\x7d' ∉ after.reverse := mt List.mem_reverse.mp hafter
  have hfromFirst : (before ++ ('\x7b' :: inner ++ ['\x7d']) ++ after).dropWhile (· != '\x7b') =
      '\x7b' :: inner ++ ['\x7d'] ++ after := by
    rw [List.append_assoc, List.dropWhile_append_of_pos (Text.bne_of_not_mem hbefore)]
    rfl
  have hspan : (('\x7b' :: inner ++ ['\x7d'] ++ after).reverse.dropWhile (· != '\x7d')).reverse =
      '\x7b' :: inner ++ ['\x7d'] := by
    rw [List.reverse_append, List.dropWhile_append_of_pos (Text.bne_of_not_mem hlast),
      List.reverse_append]
    simp
  simp only [braceSpan?, hfromFirst, hspan]
  rfl

/-! ## The members -/

/-- A name that is bound once, or always to the same value, is found. -/
theorem Json.lookup?_eq_some {members : List (String × Value)} {name : String} {v : Value}
    (h : (name, v) ∈ members) (hunique : ∀ m ∈ members, m.1 = name → m.2 = v) :
    lookup? members name = some v := by
  have hsome : (members.reverse.find? (·.1 == name)).isSome := by
    rw [List.find?_isSome]
    exact ⟨(name, v), List.mem_reverse.mpr h, by simp⟩
  obtain ⟨m, hm⟩ := Option.isSome_iff_exists.mp hsome
  have hname : m.1 = name := by simpa using List.find?_some hm
  have hmem := List.mem_reverse.mp (List.mem_of_find?_eq_some hm)
  rw [lookup?, hm, Option.map_some, hunique m hmem hname]

namespace Report

/-- The members of a report as an object. -/
def members (r : Report) : List (String × Json.Value) :=
  [("time_complexity", .text r.timeComplexity),
   ("space_complexity", .text r.spaceComplexity),
   ("improvements", .list (r.improvements.map .text)),
   ("explanation", .text r.explanation)]

variable {r : Report}

/-- The names are the fields that are looked for. -/
theorem map_fst_members : r.members.map Prod.fst = requiredFields := rfl

/-- No two members of a report have the same name. -/
theorem eq_of_mem_members {m m' : String × Json.Value} (h : m ∈ r.members) (h' : m' ∈ r.members)
    (hname : m.1 = m'.1) : m = m' := by
  have hnodup : (r.members.map Prod.fst).Nodup := by rw [map_fst_members]; decide
  exact List.inj_on_of_nodup_map hnodup h h' hname

theorem mem_requiredFields_of_mem_members {m : String × Json.Value} (h : m ∈ r.members) :
    m.1 ∈ requiredFields :=
  map_fst_members (r := r) ▸ List.mem_map_of_mem h

/-- The members of a report among others, in any order, are found. -/
theorem lookup?_of_perm {all others : List (String × Json.Value)}
    (hall : all.Perm (r.members ++ others)) (hothers : ∀ m ∈ others, m.1 ∉ requiredFields)
    (name : String) {v : Json.Value} (h : (name, v) ∈ r.members) :
    Json.lookup? all name = some v := by
  refine Json.lookup?_eq_some (hall.mem_iff.mpr (List.mem_append_left _ h)) fun m hm hname => ?_
  rcases List.mem_append.mp (hall.mem_iff.mp hm) with hmember | hother
  · rw [eq_of_mem_members hmember h hname]
  · exact absurd (hname ▸ mem_requiredFields_of_mem_members h) (hothers m hother)

/-- A list of texts is read as it is. -/
theorem asTexts_map (items : List String) : asTexts (.list (items.map .text)) = .ok items := by
  rw [asTexts]
  induction items with
  | nil => rfl
  | cons item items ih =>
      rw [List.map_cons, List.mapM_cons, ih]
      rfl

/-- The members of a report among others, in any order, are read as the report. -/
theorem ofMembers_of_perm {all others : List (String × Json.Value)}
    (hall : all.Perm (r.members ++ others)) (hothers : ∀ m ∈ others, m.1 ∉ requiredFields) :
    ofMembers all = .ok r := by
  rw [ofMembers, lookup?_of_perm hall hothers "time_complexity" (.head _),
    lookup?_of_perm hall hothers "space_complexity" (.tail _ (.head _)),
    lookup?_of_perm hall hothers "improvements" (.tail _ (.tail _ (.head _))),
    lookup?_of_perm hall hothers "explanation" (.tail _ (.tail _ (.tail _ (.head _))))]
  simp only [asTexts_map]
  rfl

/-! ## The answer -/

/-- An object is read with all its members. -/
theorem readWhole_readObject {all : List (String × Json.Value)} {s : Bytes}
    (h : Json.Reads (Json.readValue Json.greatestDepth) (.object all) s) :
    Json.readWhole readObject s = .ok all := by
  have hreads : Json.Reads readObject all s := by
    refine ⟨h.begins, fun hblanks hrest => ?_⟩
    rw [readObject, h.read_eq hblanks hrest]
  simpa using hreads.readWhole_eq Json.blankBytes_nil Json.blankBytes_nil

/-- What is written of a report is a spelling of its members. -/
theorem spells_written (r : Report) (depth : Nat) :
    Json.Spells (depth + 2) (.object r.members) r.written := by
  have htext := Json.spells_writtenString
  have hlist : Json.Spells (depth + 1) (.list (r.improvements.map .text))
      (Json.writtenList (r.improvements.map Json.writtenString)) := by
    refine .list (Json.elements_separated ?_)
    rw [List.forall₂_map_left_iff, List.forall₂_map_right_iff, List.forall₂_same]
    exact fun t _ => htext depth t
  refine .object (Json.elements_writtenMembers ?_)
  exact .cons ⟨rfl, htext _ _⟩ <| .cons ⟨rfl, htext _ _⟩ <| .cons ⟨rfl, hlist⟩ <|
    .cons ⟨rfl, htext _ _⟩ .nil

section

variable {all others : List (String × Json.Value)} {object before after : String}

/-- The object in an answer is read as the report whose members it has. -/
theorem ofAnswer_append (hobject : Json.Spells Json.greatestDepth (.object all) object.toList)
    (hall : all.Perm (r.members ++ others)) (hothers : ∀ m ∈ others, m.1 ∉ requiredFields)
    (hbefore : '\x7b' ∉ before.toList) (hafter : '\x7d' ∉ after.toList) :
    ofAnswer (before ++ object ++ after) = .ok r := by
  have hspan : braceSpan? (before ++ object ++ after).toList = some object.toList := by
    rw [String.toList_append, String.toList_append]
    generalize object.toList = text at hobject
    cases hobject with
    | scalar h => cases h
    | object h => exact braceSpan?_append hbefore hafter
  rw [ofAnswer, hspan]
  simp only [readWhole_readObject (Json.reads_of_spells hobject)]
  exact ofMembers_of_perm hall hothers

end

/-- A written report alone is an answer that holds it. -/
theorem ofAnswer_written (r : Report) : ofAnswer (String.ofList r.written) = .ok r := by
  have hobject : Json.Spells Json.greatestDepth (.object r.members)
      (String.ofList r.written).toList := by
    rw [String.toList_ofList]
    exact spells_written r 125
  have hperm : r.members.Perm (r.members ++ []) := by rw [List.append_nil]
  have h : ofAnswer ("" ++ String.ofList r.written ++ "") = .ok r :=
    ofAnswer_append hobject hperm (fun m hm => nomatch hm) (by simp) (by simp)
  simpa using h

/-- **A report is read from every answer that holds it**: an object that binds the four fields once,
in any order and spelling, among other members and between prose without an opening brace before it
or a closing one behind. The text that is written of a report is such an answer. -/
theorem ofAnswer_eq_ok (r : Report) :
    ofAnswer (String.ofList r.written) = .ok r ∧
      ∀ (all others : List (String × Json.Value)) (before object after : String),
        Json.Spells 127 (.object all) object.toList →
        all.Perm (r.members ++ others) → (∀ m ∈ others, m.1 ∉ requiredFields) →
        '\x7b' ∉ before.toList → '\x7d' ∉ after.toList →
        ofAnswer (before ++ object ++ after) = .ok r :=
  ⟨ofAnswer_written r, fun _ _ _ _ _ => ofAnswer_append⟩

set_option maxRecDepth 4096 in
open Json in
/-- A report in an answer with prose around it, whose object has a further member in front, and the
escapes of a surrogate pair and of a brace in a text. -/
theorem ofAnswer_eq_ok_escaped :
    ofAnswer ("as asked \x7d: " ++
        ("\x7b\"more\":[ -1,\x7b\x7d],\"time_complexity\":\"\\ud834\\uDD1E\\u007B\"," ++
          "\"space_complexity\":\"\x7d\",\"improvements\":[\"\\\"\",\"\"]," ++
          "\"explanation\":\"\"\x7d") ++
        " (\x7b)") =
      .ok ⟨"𝄞\x7b", "\x7d", ["\"", ""], ""⟩ := by
  have htext := spells_writtenString
  have hmore : Spells 126 (.list [.number (.negative 1), .object []]) "[ -1,\x7b\x7d]".toList := by
    have hnumber : Spells 125 (.number (.negative 1)) ['-', '1'] :=
      (SpellsScalar.number (.negative (by decide) (by decide))).spells 125
    have hobject : Spells 125 (.object []) ['\x7b', '\x7d'] := .object (.none blanks_nil)
    have hgap : Blanks [' '] := by simp [Blanks]
    exact .list (.some hgap hnumber
      (.next blanks_nil blanks_nil hobject (.done blanks_nil)))
  have htime : Spells 126 (.text "𝄞\x7b") "\"\\ud834\\uDD1E\\u007B\"".toList := by
    have hfirst : SpellsUnit 0xD834 ['d', '8', '3', '4'] :=
      ⟨⟨by decide, .inl rfl⟩, ⟨by decide, .inl rfl⟩, ⟨by decide, .inl rfl⟩, ⟨by decide, .inl rfl⟩⟩
    have hsecond : SpellsUnit 0xDD1E ['D', 'D', '1', 'E'] :=
      ⟨⟨by decide, .inr rfl⟩, ⟨by decide, .inr rfl⟩, ⟨by decide, .inl rfl⟩, ⟨by decide, .inr rfl⟩⟩
    have hbrace : SpellsUnit 0x7B ['0', '0', '7', 'B'] :=
      ⟨⟨by decide, .inl rfl⟩, ⟨by decide, .inl rfl⟩, ⟨by decide, .inl rfl⟩, ⟨by decide, .inr rfl⟩⟩
    have hclef : SpellsChar '𝄞' ['\\', 'u', 'd', '8', '3', '4', '\\', 'u', 'D', 'D', '1', 'E'] :=
      .pair (c := '𝄞') (by decide) hfirst hsecond
    have hinner : SpellsChars "𝄞\x7b".toList "\\ud834\\uDD1E\\u007B".toList :=
      .cons hclef (.cons (.unit (c := '\x7b') hbrace) .nil)
    exact (SpellsScalar.text (.quoted hinner)).spells 126
  have hlist : Spells 126 (.list [.text "\"", .text ""]) "[\"\\\"\",\"\"]".toList :=
    .list (elements_separated (.cons (htext 125 "\"") (.cons (htext 125 "") .nil)))
  have hmembers : List.Forall₂ (fun m w => m.1 = w.1 ∧ Spells 126 m.2 w.2)
      [("more", .list [.number (.negative 1), .object []]), ("time_complexity", .text "𝄞\x7b"),
        ("space_complexity", .text "\x7d"), ("improvements", .list [.text "\"", .text ""]),
        ("explanation", .text "")]
      [("more", "[ -1,\x7b\x7d]".toList), ("time_complexity", "\"\\ud834\\uDD1E\\u007B\"".toList),
        ("space_complexity", "\"\x7d\"".toList), ("improvements", "[\"\\\"\",\"\"]".toList),
        ("explanation", "\"\"".toList)] :=
    .cons ⟨rfl, hmore⟩ <| .cons ⟨rfl, htime⟩ <| .cons ⟨rfl, htext 126 "\x7d"⟩ <|
      .cons ⟨rfl, hlist⟩ <| .cons ⟨rfl, htext 126 ""⟩ .nil
  exact (ofAnswer_eq_ok ⟨"𝄞\x7b", "\x7d", ["\"", ""], ""⟩).2 _ [_] _ _ _
    (.object (elements_writtenMembers hmembers)) (List.perm_append_singleton _ _).symm
    (by simp [requiredFields]) (by decide) (by decide)

end Report

end AnalysisGateway
