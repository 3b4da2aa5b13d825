import AnalysisGateway.Flow
import AnalysisGateway.Proofs.Flow.Snippet
import AnalysisGateway.Proofs.Text.Trim

/-!
# Snippets with blanks around them

The check looks at a snippet through what is left of it without the blanks around it: that is what
it gives, if its length is within the bounds. So blanks around a snippet change nothing, neither for
the check, with the words of its refusals, nor for a Markdown analysis, which sends what the check
gives.
-/

namespace AnalysisGateway.AnalysisSettings

open Text

variable {s : AnalysisSettings} {code other t : String}

/-- Nothing but what trimming leaves counts. -/
theorem checkSnippet_congr (h : trim code.toList = trim other.toList) :
    s.checkSnippet code = s.checkSnippet other := by
  simp only [checkSnippet, h]

/-- **The check gives what is left without blanks around it**, if its length is within the
bounds. -/
theorem checkSnippet_eq_ok_iff :
    s.checkSnippet code = .ok t ↔ Strips code.toList t.toList ∧
      1 ≤ t.length ∧ s.minLength ≤ t.length ∧ t.length ≤ s.maxLength := by
  rw [strips_iff]
  constructor
  · intro h
    obtain _ | _ | _ | ⟨hpos, hmin, hmax⟩ := checks_iff.mpr h
    rw [trimmed, String.toList_ofList, String.length_ofList]
    exact ⟨rfl, Nat.one_le_iff_ne_zero.mpr hpos, hmin, hmax⟩
  · rintro ⟨htrim, hpos, hmin, hmax⟩
    have ht : t = trimmed code := by rw [trimmed, htrim, String.ofList_toList]
    have hlength : (trim code.toList).length = t.length := by rw [htrim, String.length_toList]
    rw [ht]
    exact checks_iff.mp (.accepted (by omega) (by omega) (by omega))

/-- A snippet of blanks is empty, whatever the bounds are. -/
theorem checkSnippet_of_allBlank (h : AllBlank code.toList) :
    s.checkSnippet code = .error (.validation "Code snippet cannot be empty") := by
  refine checks_iff.mp (.empty ?_)
  rw [(trim_eq_nil_iff _).mpr h, List.length_nil]

/-- Blanks around a snippet do not matter. -/
theorem checkSnippet_append {before after : String} (hbefore : AllBlank before.toList)
    (hafter : AllBlank after.toList) :
    s.checkSnippet (before ++ code ++ after) = s.checkSnippet code := by
  refine checkSnippet_congr ?_
  rw [String.toList_append, String.toList_append, trim_append hbefore hafter]

/-- What the check gives passes it again, as it is. -/
theorem checkSnippet_of_eq_ok (h : s.checkSnippet code = .ok t) : s.checkSnippet t = .ok t := by
  obtain ⟨hstrips, hbounds⟩ := checkSnippet_eq_ok_iff.mp h
  refine checkSnippet_eq_ok_iff.mpr ⟨strips_iff.mpr ?_, hbounds⟩
  rw [← strips_iff.mp hstrips, trim_trim]

/-- **The check of a snippet strips it of the blanks around it.**

1. It gives a text exactly if that is what is left of the snippet, and its length is within the
   bounds; and it gives the same for that text.
2. Blanks around the snippet change nothing: neither what the check gives or refuses, nor the run of
   a Markdown analysis, whoever answers its calls.
3. A snippet of blanks is refused as empty, whatever the bounds are. -/
theorem checkSnippet_strips (s : AnalysisSettings) (code : String) :
    (∀ t, s.checkSnippet code = .ok t ↔ Strips code.toList t.toList ∧
      1 ≤ t.length ∧ s.minLength ≤ t.length ∧ t.length ≤ s.maxLength) ∧
    (∀ t, s.checkSnippet code = .ok t → s.checkSnippet t = .ok t) ∧
    (∀ before after : String, AllBlank before.toList → AllBlank after.toList →
      s.checkSnippet (before ++ code ++ after) = s.checkSnippet code ∧
        ∀ {σ : Type} (client : Client σ) (state : σ),
          (analyzeMarkdown s (before ++ code ++ after)).run client state =
            (analyzeMarkdown s code).run client state) ∧
    (AllBlank code.toList →
      s.checkSnippet code = .error (.validation "Code snippet cannot be empty")) := by
  refine ⟨fun t => checkSnippet_eq_ok_iff, fun t => checkSnippet_of_eq_ok,
    fun before after hbefore hafter => ?_, checkSnippet_of_allBlank⟩
  have hcheck : s.checkSnippet (before ++ code ++ after) = s.checkSnippet code :=
    checkSnippet_append hbefore hafter
  refine ⟨hcheck, fun client state => ?_⟩
  rw [analyzeMarkdown, analyzeMarkdown, hcheck]

/-- An ideographic space and a no-break space are blanks, and one character each. A zero-width space
is no blank. -/
example : (⟨.markdown, 3, 4⟩ : AnalysisSettings).checkSnippet "\u3000a\u00a0b\u200b\u2003\n" =
    .ok "a\u00a0b\u200b" := by
  decide

end AnalysisGateway.AnalysisSettings
