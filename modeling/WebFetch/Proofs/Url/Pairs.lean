import WebFetch.Form.RoundTrip
import WebFetch.Url.Query
import WebFetch.Url.Shared

/-!
Writing a list of pairs into the query of a URL. The list reads back as it was written, whatever
characters it holds, and whether it is written as pairs or as the text of a query: that text is
made of characters which a query leaves as they are. Where the path is hierarchical, nothing but
the query changes.
-/

set_option autoImplicit false

namespace WebFetch

namespace Form

theorem render_ne_empty {list : Entries} (h : list ≠ []) : render list ≠ "" := by
  intro empty
  have back := parse_render list
  rw [empty] at back
  exact h back.symm

/-- A character that stands for a part of a name or a value, or divides them. -/
def isText (c : Char) : Bool := isWritten c || c == '=' || c == '&'

theorem isText_of_isWritten {c : Char} (h : isWritten c = true) : isText c = true := by
  rw [isText, h]
  rfl

theorem isText_of_mem_renderPair {pair : String × String} {c : Char} (h : c ∈ renderPair pair) :
    isText c = true := by
  rw [renderPair, List.mem_append, List.mem_cons] at h
  rcases h with h | rfl | h
  · exact isText_of_isWritten (isWritten_of_mem_encode h)
  · rfl
  · exact isText_of_isWritten (isWritten_of_mem_encode h)

theorem isText_of_mem_renderChars {list : Entries} {c : Char} (h : c ∈ renderChars list) :
    isText c = true := by
  induction list with
  | nil => cases h
  | cons pair rest ih =>
    cases rest with
    | nil =>
      have alone : renderChars [pair] = renderPair pair := by simp [renderChars, List.intercalate]
      rw [alone] at h
      exact isText_of_mem_renderPair h
    | cons next rest =>
      have divided : renderChars (pair :: next :: rest) =
          renderPair pair ++ '&' :: renderChars (next :: rest) := by
        simp [renderChars, List.intercalate]
      rw [divided, List.mem_append, List.mem_cons] at h
      rcases h with h | rfl | h
      · exact isText_of_mem_renderPair h
      · rfl
      · exact ih h

/-- No query encodes or passes over a character of form text. -/
theorem isText_plain {c : Char} (h : isText c = true) :
    UrlInput.isSkipped c = false ∧ Percent.specialQuery c = false := by
  have visible : 33 ≤ c.toNat ∧ c.toNat ≤ 126 := by
    simp only [isText, isWritten, Bool.or_eq_true, beq_iff_eq, isPlain_iff] at h
    rcases h with (((h | rfl) | rfl) | rfl) | rfl
    · rcases h with h | h | h | rfl | rfl | rfl | rfl
      · omega
      · omega
      · omega
      all_goals decide
    all_goals decide
  have other (d : Char) (hd : isText d = false) : c ≠ d := by
    rintro rfl
    rw [h] at hd
    cases hd
  constructor
  · simp only [UrlInput.isSkipped, Bool.or_eq_false_iff, beq_eq_false_iff_ne]
    exact ⟨⟨other '\t' rfl, other '\n' rfl⟩, other '\r' rfl⟩
  · have low : ¬ c < ' ' := by
      intro lt
      have lt : c.toNat < 32 := lt
      omega
    have high : ¬ '~' < c := by
      intro lt
      have lt : 126 < c.toNat := lt
      omega
    simp only [Percent.specialQuery, Percent.query, Percent.controls, low, high, decide_false,
      Bool.or_self, Bool.false_or, Bool.or_eq_false_iff, beq_eq_false_iff_ne, List.contains_cons,
      List.contains_nil]
    exact ⟨⟨other ' ' rfl, other '"' rfl, other '#' rfl, other '<' rfl, other '>' rfl, trivial⟩,
      other '\'' rfl⟩

end Form

theorem Percent.encode_of_plain {set : Percent.Set} {cs : List Char}
    (plain : ∀ c ∈ cs, set c = false) : Percent.encode set cs = cs := by
  induction cs with
  | nil => rfl
  | cons c cs ih =>
    have here := plain c List.mem_cons_self
    rw [Percent.encode, List.flatMap_cons, Percent.encodeChar, here, ← Percent.encode,
      ih fun d hd => plain d (List.mem_cons_of_mem c hd)]
    rfl

namespace Url

variable {u : Url}

/-! ## Pairs -/

theorem query_withQuery_none (u : Url) : (u.withQuery none).query = none := by
  change (trimOpaque { u with query := none }).query = none
  unfold trimOpaque
  split
  · rfl
  · rfl

theorem query_withPairs (u : Url) (list : Entries) :
    (u.withPairs list).query = if list = [] then none else some (Form.render list) := by
  cases list with
  | nil => exact query_withQuery_none u
  | cons pair rest => rfl

theorem pairs_withPairs (u : Url) (list : Entries) : (u.withPairs list).pairs = list := by
  rw [pairs, query_withPairs]
  cases list with
  | nil => rfl
  | cons pair rest => exact Form.parse_render (pair :: rest)

theorem search_withPairs (u : Url) (list : Entries) :
    (u.withPairs list).search = if list = [] then "" else "?" ++ Form.render list := by
  rw [search, query_withPairs]
  by_cases h : list = []
  · rw [if_pos h, if_pos h]
    rfl
  · rw [if_neg h, if_neg h]
    exact if_neg (Form.render_ne_empty h)

/-- A hierarchical path has nothing that goes with the query. -/
theorem withPairs_of_hierarchical (h : u.hasOpaquePath = false) (list : Entries) :
    u.withPairs list =
      { u with query := if list = [] then none else some (Form.render list) } := by
  cases list with
  | nil =>
    have kept : Url.hasOpaquePath { u with query := none } = false := h
    change Url.trimOpaque { u with query := none } = _
    rw [trimOpaque, kept, Bool.false_and, Bool.false_and]
    rfl
  | cons pair rest => rfl

theorem component_of_query (u : Url) (query : Option String) {c : Component} (h : c ≠ .search) :
    Url.component { u with query := query } c = u.component c := by
  cases c with
  | search => exact absurd rfl h
  | protocol | username | password | host | hostname | port | pathname | hash => rfl

/-! ## Text -/

/-- Form text is the query that it is set as. -/
theorem encodeQuery_render (kind : SchemeKind) (list : Entries) :
    encodeQuery kind (UrlInput.visible (Form.renderChars list)) = Form.render list := by
  have plain (c : Char) (h : c ∈ Form.renderChars list) :=
    Form.isText_plain (Form.isText_of_mem_renderChars h)
  have shown : UrlInput.visible (Form.renderChars list) = Form.renderChars list := by
    refine List.filter_eq_self.mpr fun c h => ?_
    rw [(plain c h).1]
    rfl
  have kept : Percent.encode (if kind.isSpecial then Percent.specialQuery else Percent.query)
      (Form.renderChars list) = Form.renderChars list := by
    refine Percent.encode_of_plain fun c h => ?_
    have special := (plain c h).2
    split
    · exact special
    · exact (Bool.or_eq_false_iff.mp special).1
  rw [encodeQuery, shown, kept, Form.render]

theorem pairs_setSearch_render (u : Url) (list : Entries) :
    (u.setSearch (String.ofList ('?' :: Form.renderChars list))).pairs = list := by
  have marked : behindMark '?' (String.ofList ('?' :: Form.renderChars list)).toList =
      some (Form.renderChars list) := by
    rw [String.toList_ofList]
    rfl
  rw [setSearch, marked, withQuery, encodeQuery_render]
  exact Form.parse_render list

end Url

end WebFetch
