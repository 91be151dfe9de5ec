import Mathlib.Data.List.Basic
import WebFetch.Proofs.Url.Pairs
import WebFetch.SearchParams

/-!
Making parameters. A list can be given as pairs, as entries, or as the form text that either of
them is written as, with or without a question mark in front; all of these make the same
parameters. Pairs are refused exactly if one of them is no pair, and the first that is none is the
one that is reported.
-/

set_option autoImplicit false

namespace WebFetch

namespace SearchParamsInit

/-- The initializers that stand for a list, of which `text` is the form text. -/
inductive Spells (list : Entries) (text : String) : SearchParamsInit → Prop where
  | pairs : Spells list text (.pairs (list.map fun pair => [pair.1, pair.2]))
  | entries : Spells list text (.entries list)
  | query : Spells list text (.query text)
  | markedQuery : Spells list text (.query ("?" ++ text))

/-! ## Pairs, one by one -/

def appendAll (u : Url) (list : Entries) : Url :=
  list.foldl (fun u pair => u.updatePairs (·.append pair.1 pair.2)) u

theorem pairs_appendAll (u : Url) (list : Entries) :
    (appendAll u list).pairs = u.pairs ++ list := by
  induction list generalizing u with
  | nil => exact (List.append_nil u.pairs).symm
  | cons pair rest ih =>
    have appended : (u.updatePairs (·.append pair.1 pair.2)).pairs = u.pairs ++ [pair] :=
      Url.pairs_withPairs u _
    change (appendAll (u.updatePairs (·.append pair.1 pair.2)) rest).pairs = _
    rw [ih, appended, List.append_assoc]
    rfl

theorem apply_pairs_cons (u : Url) (element : List String) (rest : List (List String)) :
    apply u (.pairs (element :: rest)) =
      (appendElement u element).bind fun u => apply u (.pairs rest) := rfl

theorem apply_pairs_of_pair (u : Url) {element : List String} (h : element.length = 2)
    (rest : List (List String)) :
    ∃ v, apply u (.pairs (element :: rest)) = apply v (.pairs rest) := by
  obtain ⟨name, value, rfl⟩ := List.length_eq_two.mp h
  exact ⟨u.updatePairs (·.append name value), rfl⟩

theorem apply_pairs_of_list (u : Url) (list : Entries) :
    apply u (.pairs (list.map fun pair => [pair.1, pair.2])) = .ok (appendAll u list) := by
  induction list generalizing u with
  | nil => rfl
  | cons pair rest ih =>
    rw [List.map_cons, apply_pairs_cons]
    exact ih (u.updatePairs (·.append pair.1 pair.2))

/-- The pairs in front of the first fault make no difference to what is reported. -/
theorem apply_pairs_of_fault {front : List (List String)} {element : List String}
    (before : ∀ x ∈ front, x.length = 2) (fault : element.length ≠ 2) (u : Url)
    (back : List (List String)) :
    apply u (.pairs (front ++ element :: back)) = .error (.pairLength element.length) := by
  induction front generalizing u with
  | nil =>
    have refused : appendElement u element = .error (.pairLength element.length) := by
      unfold appendElement
      split
      · exact absurd rfl fault
      · rfl
    rw [List.nil_append, apply_pairs_cons, refused]
    rfl
  | cons first rest ih =>
    obtain ⟨v, next⟩ := apply_pairs_of_pair u (before first List.mem_cons_self)
      (rest ++ element :: back)
    rw [List.cons_append, next]
    exact ih (fun x hx => before x (List.mem_cons_of_mem first hx)) v

theorem exists_list {elements : List (List String)} (whole : ∀ x ∈ elements, x.length = 2) :
    ∃ list : Entries, elements = list.map fun pair => [pair.1, pair.2] := by
  induction elements with
  | nil => exact ⟨[], rfl⟩
  | cons first rest ih =>
    obtain ⟨name, value, rfl⟩ := List.length_eq_two.mp (whole first List.mem_cons_self)
    obtain ⟨list, rfl⟩ := ih fun x hx => whole x (List.mem_cons_of_mem _ hx)
    exact ⟨(name, value) :: list, rfl⟩

/-- All elements are pairs, or the list divides at the first that is none. -/
theorem whole_or_fault (elements : List (List String)) :
    (∀ x ∈ elements, x.length = 2) ∨
      ∃ front element back, elements = front ++ element :: back ∧
        (∀ x ∈ front, x.length = 2) ∧ element.length ≠ 2 := by
  cases found : elements.find? fun x => x.length != 2 with
  | none =>
    refine .inl fun x hx => ?_
    simpa using List.find?_eq_none.mp found x hx
  | some element =>
    obtain ⟨fault, front, back, split, before⟩ := List.find?_eq_some_iff_append.mp found
    refine .inr ⟨front, element, back, split, fun x hx => ?_, ?_⟩
    · simpa using before x hx
    · simpa using fault

/-! ## Text -/

theorem head_render_ne_mark (list : Entries) : (Form.renderChars list).head? ≠ some '?' := by
  intro h
  have written := Form.isText_of_mem_renderChars (List.mem_of_head? h)
  revert written
  decide

theorem toList_render (list : Entries) : (Form.render list).toList = Form.renderChars list :=
  String.toList_ofList

theorem apply_query (u : Url) (list : Entries) :
    apply u (.query (Form.render list)) =
      .ok (u.setSearch (String.ofList ('?' :: Form.renderChars list))) := by
  unfold apply
  dsimp only
  rw [toList_render, if_neg (head_render_ne_mark list)]

theorem apply_markedQuery (u : Url) (list : Entries) :
    apply u (.query ("?" ++ Form.render list)) =
      .ok (u.setSearch (String.ofList ('?' :: Form.renderChars list))) := by
  have chars : ("?" ++ Form.render list).toList = '?' :: Form.renderChars list := by
    rw [String.toList_append, toList_render]
    rfl
  unfold apply
  dsimp only
  rw [chars, List.head?_cons, if_pos rfl]
  rfl

/-- Whatever stands for a list puts this list into the query of a URL that has no pairs. -/
theorem apply_of_spells {list : Entries} {init : SearchParamsInit}
    (spells : Spells list (Form.render list) init) {u : Url} (blank : u.pairs = []) :
    ∃ v, apply u init = .ok v ∧ v.pairs = list := by
  have appended : (appendAll u list).pairs = list := by
    rw [pairs_appendAll, blank, List.nil_append]
  cases spells with
  | pairs => exact ⟨_, apply_pairs_of_list u list, appended⟩
  | entries => exact ⟨_, rfl, appended⟩
  | query => exact ⟨_, apply_query u list, Url.pairs_setSearch_render u list⟩
  | markedQuery => exact ⟨_, apply_markedQuery u list, Url.pairs_setSearch_render u list⟩

end SearchParamsInit

namespace SearchParams
open SearchParamsInit (Spells)

section Create

variable {host : Host} {base : Url} {init : SearchParamsInit}

theorem create_of_ok {u : Url} (parsed : host.parseUrl SearchParamsInit.scratch = .ok base)
    (made : init.apply base = .ok u) (s : Session) :
    create host init s = (.ok ⟨s.nextUrl⟩, s.addUrl u) := by
  unfold create
  rw [parsed]
  dsimp only
  rw [made]
  rfl

theorem create_of_error {e : Invalid} (parsed : host.parseUrl SearchParamsInit.scratch = .ok base)
    (refused : init.apply base = .error e) (s : Session) :
    create host init s = (.error (.validation e), s) := by
  unfold create
  rw [parsed]
  dsimp only
  rw [refused]
  rfl

/-- With a host that makes a URL without parameters of the scratch text, all that stands for a list
    makes parameters that show this list and are written as the same text. Pairs are refused
    exactly if there is one that does not hold two texts, and the first such tells its length. -/
theorem initializers_agree (parsed : host.parseUrl SearchParamsInit.scratch = .ok base)
    (blank : base.pairs = []) :
    (∀ list : Entries, ∃ text, ∀ init, Spells list text init → ∀ s, ∃ p s',
      create host init s = (.ok p, s') ∧ p.entries s' = (list, s') ∧
        p.render s' = (text, s')) ∧
    ∀ (elements : List (List String)) (s : Session),
      ((∃ p, (create host (.pairs elements) s).1 = .ok p) ↔
        ∀ element ∈ elements, element.length = 2) ∧
      ∀ e, (create host (.pairs elements) s).1 = .error e ↔
        ∃ front element back, elements = front ++ element :: back ∧
          (∀ x ∈ front, x.length = 2) ∧ element.length ≠ 2 ∧
          e = .validation (.pairLength element.length) := by
  constructor
  · intro list
    refine ⟨Form.render list, fun init spells s => ?_⟩
    obtain ⟨u, made, shown⟩ := SearchParamsInit.apply_of_spells spells blank
    have stored : (s.addUrl u).url s.nextUrl = u := Session.url_addUrl_nextUrl s u
    refine ⟨_, _, create_of_ok parsed made s, ?_, ?_⟩
    · change (((s.addUrl u).url s.nextUrl).pairs, s.addUrl u) = _
      rw [stored, shown]
    · change (Form.render ((s.addUrl u).url s.nextUrl).pairs, s.addUrl u) = _
      rw [stored, shown]
  · intro elements s
    rcases SearchParamsInit.whole_or_fault elements with
      whole | ⟨front, element, back, rfl, before, fault⟩
    · obtain ⟨list, rfl⟩ := SearchParamsInit.exists_list whole
      rw [create_of_ok parsed (SearchParamsInit.apply_pairs_of_list base list)]
      refine ⟨⟨fun _ => whole, fun _ => ⟨_, rfl⟩⟩, fun e => ⟨fun h => ?_, ?_⟩⟩
      · cases h
      · rintro ⟨front, element, back, split, _, fault, _⟩
        refine absurd (whole element ?_) fault
        rw [split]
        exact List.mem_append_right front List.mem_cons_self
    · rw [create_of_error parsed (SearchParamsInit.apply_pairs_of_fault before fault base back)]
      refine ⟨⟨?_, fun whole => ?_⟩, fun e => ⟨?_, ?_⟩⟩
      · rintro ⟨p, h⟩
        cases h
      · exact absurd (whole element (List.mem_append_right front List.mem_cons_self)) fault
      · intro h
        cases h
        exact ⟨front, element, back, rfl, before, fault, rfl⟩
      · rintro ⟨front', element', back', split, before', fault', rfl⟩
        -- Two first faults of one list are the same, for either is what is reported.
        have one := SearchParamsInit.apply_pairs_of_fault before fault base back
        rw [split, SearchParamsInit.apply_pairs_of_fault before' fault' base back'] at one
        have length : element'.length = element.length := by
          injection one with one
          injection one
        rw [length]

end Create

/-- A name that starts with a question mark and a nameless pair come back from their text, and the
    second of three elements is refused for its length. -/
theorem initializers_agree_of_marked_name :
    let blank : Url := ⟨"http", some (.ofHost (.name "x")), false, "/", none, none⟩
    let host : Host := ⟨Utf8.encode, fun _ => [], fun _ _ => ⟨[], []⟩,
      fun text => if text = "http://x/" then .ok blank else .error .aborted,
      fun _ _ => .error .aborted⟩
    let s : Session := ⟨#[], #[], []⟩
    host.parseUrl SearchParamsInit.scratch = .ok blank ∧ blank.pairs = [] ∧
      (∃ p s', create host (.query "?%3Fa=%26&=") s = (.ok p, s') ∧
        p.entries s' = ([("?a", "&"), ("", "")], s') ∧ p.render s' = ("%3Fa=%26&=", s')) ∧
      (create host (.pairs [["a", "1"], ["b"], []]) s).1 = .error (.validation (.pairLength 1)) := by
  intro blank host s
  have parsed : host.parseUrl SearchParamsInit.scratch = .ok blank := rfl
  have no_pairs : blank.pairs = [] := rfl
  obtain ⟨agree, refuse⟩ := initializers_agree parsed no_pairs
  refine ⟨parsed, no_pairs, ?_, ?_⟩
  · obtain ⟨text, made⟩ := agree [("?a", "&"), ("", "")]
    have text_eq : text = "%3Fa=%26&=" := by
      obtain ⟨p, s', created, shown, rendered⟩ := made _ .entries s
      have same : Form.render (p.entries s').1 = text := congrArg Prod.fst rendered
      rw [shown] at same
      exact same.symm.trans (by decide : Form.render [("?a", "&"), ("", "")] = _)
    subst text_eq
    exact made _ .markedQuery s
  · exact ((refuse [["a", "1"], ["b"], []] s).2 _).mpr
      ⟨[["a", "1"]], ["b"], [[]], rfl, by decide, by decide, rfl⟩

end SearchParams

end WebFetch
