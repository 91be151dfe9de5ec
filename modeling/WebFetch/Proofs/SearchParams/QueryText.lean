import WebFetch.Proofs.Form.Escaping
import WebFetch.Proofs.SearchParams.Initializer

/-!
Making parameters from the text of a query. The text becomes the search of a URL, which passes over
tabs and line ends and escapes what a query may not hold, and the parameters are then read from
there. The main statement says that they are the pairs of the text as form text, behind one
question mark, where it has neither a tab nor a line end, and that otherwise these characters, and
only these, are lost. Parameters that are given as pairs or entries keep them.
-/

set_option autoImplicit false

namespace WebFetch

/-- The text of a query without a question mark in front. Only one is taken away. -/
def unmarked : List Char → List Char
  | '?' :: rest => rest
  | cs => cs

theorem unmarked_eq (cs : List Char) :
    unmarked cs = if cs.head? = some '?' then cs.drop 1 else cs := by
  unfold unmarked
  split
  · rfl
  · next unmatched =>
    refine (if_neg fun mark => ?_).symm
    obtain ⟨rest, rfl⟩ := List.head?_eq_some_iff.mp mark
    exact unmatched rest rfl

theorem mem_of_mem_unmarked {cs : List Char} {c : Char} (h : c ∈ unmarked cs) : c ∈ cs := by
  unfold unmarked at h
  split at h
  · exact List.mem_cons_of_mem '?' h
  · exact h

theorem UrlInput.visible_of_plain {cs : List Char}
    (plain : ∀ c ∈ cs, c ≠ '\t' ∧ c ≠ '\n' ∧ c ≠ '\r') : visible cs = cs := by
  refine List.filter_eq_self.mpr fun c there => ?_
  obtain ⟨tab, feed, return_⟩ := plain c there
  simp [isSkipped, tab, feed, return_]

namespace Url

/-- What a query escapes is no form text, whatever the scheme. -/
theorem parse_encodeQuery (kind : SchemeKind) (cs : List Char) :
    Form.parse (encodeQuery kind cs) = Form.parseChars cs := by
  have special (c : Char) (inside : Percent.specialQuery c = true) : Form.isText c = false := by
    rw [← Bool.not_eq_true]
    intro text
    rw [(Form.isText_plain text).2] at inside
    cases inside
  rw [Form.parse, encodeQuery, String.toList_ofList]
  refine Form.parseChars_percentEncode (fun c inside => special c ?_) cs
  split at inside
  · exact inside
  · rw [Percent.specialQuery, inside]
    rfl

/-- The pairs of a URL whose search was set to a text behind a mark. -/
theorem pairs_setSearch (u : Url) (cs : List Char) :
    (u.setSearch (String.ofList ('?' :: cs))).pairs = Form.parseChars (UrlInput.visible cs) := by
  have marked : behindMark '?' (String.ofList ('?' :: cs)).toList = some cs := by
    rw [String.toList_ofList]
    rfl
  rw [setSearch, marked, withQuery]
  exact parse_encodeQuery u.kind (UrlInput.visible cs)

end Url

namespace SearchParams

variable {host : Host} {base : Url}

theorem create_shows {init : SearchParamsInit} {u : Url}
    (parsed : host.parseUrl SearchParamsInit.scratch = .ok base) (made : init.apply base = .ok u)
    (s : Session) :
    ∃ p s', create host init s = (.ok p, s') ∧ p.entries s' = (u.pairs, s') := by
  refine ⟨⟨s.nextUrl⟩, s.addUrl u, create_of_ok parsed made s, ?_⟩
  change (((s.addUrl u).url s.nextUrl).pairs, s.addUrl u) = _
  rw [Session.url_addUrl_nextUrl]

theorem create_query (parsed : host.parseUrl SearchParamsInit.scratch = .ok base) (text : String)
    (s : Session) :
    ∃ p s', create host (.query text) s = (.ok p, s') ∧
      p.entries s' = (Form.parseChars (UrlInput.visible (unmarked text.toList)), s') := by
  have made : SearchParamsInit.apply base (.query text) =
      .ok (base.setSearch (String.ofList ('?' :: unmarked text.toList))) := by
    unfold SearchParamsInit.apply
    dsimp only
    rw [← unmarked_eq]
  rw [← Url.pairs_setSearch base]
  exact create_shows parsed made s

/-- Parameters can be made from every text, and they are the pairs that the text spells as form text
    behind one question mark, less its tabs and line ends. Where it has none of these, nothing is
    lost, added or changed on the way through the search of a URL. -/
theorem query_read_as_form_text (parsed : host.parseUrl SearchParamsInit.scratch = .ok base)
    (text : String) (s : Session) :
    ∃ p s', create host (.query text) s = (.ok p, s') ∧
      p.entries s' = (Form.parseChars (UrlInput.visible (unmarked text.toList)), s') ∧
      ((∀ c ∈ text.toList, c ≠ '\t' ∧ c ≠ '\n' ∧ c ≠ '\r') →
        p.entries s' = (Form.parseChars (unmarked text.toList), s')) := by
  obtain ⟨p, s', made, shown⟩ := create_query parsed text s
  refine ⟨p, s', made, shown, fun plain => ?_⟩
  have whole : UrlInput.visible (unmarked text.toList) = unmarked text.toList :=
    UrlInput.visible_of_plain fun c there => plain c (mem_of_mem_unmarked there)
  rw [shown, whole]

/-- Two question marks, of which one stays, a fragment mark, quotes, a broken escape and one that a
    following character does not complete, a plus sign and text outside ASCII. -/
theorem query_read_as_form_text_of_marks :
    let blank : Url := ⟨"http", some (.ofHost (.name "x")), false, "/", none, none⟩
    let host : Host := ⟨Utf8.encode, fun _ => [], fun _ _ => ⟨[], []⟩,
      fun text => if text = "http://x/" then .ok blank else .error .aborted,
      fun _ _ => .error .aborted⟩
    let s : Session := ⟨#[], #[], []⟩
    host.parseUrl SearchParamsInit.scratch = .ok blank ∧
      ∃ p s', create host (.query "??a#='\"%4é&%+%41=b=c&&") s = (.ok p, s') ∧
        p.entries s' = ([("?a#", "'\"%4é"), ("% A", "b=c")], s') := by
  intro blank host s
  have parsed : host.parseUrl SearchParamsInit.scratch = .ok blank := rfl
  obtain ⟨p, s', made, _, shown⟩ := query_read_as_form_text parsed "??a#='\"%4é&%+%41=b=c&&" s
  refine ⟨parsed, p, s', made, ?_⟩
  rw [shown (by simp)]
  have read : Form.parseChars (unmarked "??a#='\"%4é&%+%41=b=c&&".toList) =
      [("?a#", "'\"%4é"), ("% A", "b=c")] := by decide +kernel
  rw [read]

/-- A tab in a value is lost between the text and the parameters. The text spells it, and entries
    that hold it keep it. -/
theorem query_loses_tab :
    let blank : Url := ⟨"http", some (.ofHost (.name "x")), false, "/", none, none⟩
    let host : Host := ⟨Utf8.encode, fun _ => [], fun _ _ => ⟨[], []⟩,
      fun text => if text = "http://x/" then .ok blank else .error .aborted,
      fun _ _ => .error .aborted⟩
    let s : Session := ⟨#[], #[], []⟩
    (∃ p s', create host (.query "a=1\t2") s = (.ok p, s') ∧
      p.entries s' = ([("a", "12")], s')) ∧
    Form.parse "a=1\t2" = [("a", "1\t2")] ∧
    ∃ p s', create host (.entries [("a", "1\t2")]) s = (.ok p, s') ∧
      p.entries s' = ([("a", "1\t2")], s') := by
  intro blank host s
  have parsed : host.parseUrl SearchParamsInit.scratch = .ok blank := rfl
  refine ⟨?_, by decide +kernel, ?_⟩
  · have lost : Form.parseChars (UrlInput.visible (unmarked "a=1\t2".toList)) = [("a", "12")] := by
      decide +kernel
    rw [← lost]
    exact create_query parsed "a=1\t2" s
  · have no_pairs : blank.pairs = [] := rfl
    obtain ⟨u, made, kept⟩ := SearchParamsInit.apply_of_spells
      (.entries : SearchParamsInit.Spells [("a", "1\t2")] _ _) no_pairs
    obtain ⟨p, s', created, shown⟩ := create_shows parsed made s
    exact ⟨p, s', created, by rw [shown, kept]⟩

end SearchParams

end WebFetch
