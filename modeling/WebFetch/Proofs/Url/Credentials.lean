import WebFetch.Url.Shared

/-!
The credentials of a URL and its setters. Only the setters of the two credentials reach them: every
other component, and every change of the query, leaves them as they are.
-/

set_option autoImplicit false

namespace WebFetch.Url

/-- A URL without a username and without a password. -/
structure Anonymous (u : Url) : Prop where
  username_eq : u.username = ""
  password_eq : u.password = ""

theorem anonymous_of_hasCredentials {u : Url} (h : u.hasCredentials = false) : u.Anonymous := by
  unfold hasCredentials at h
  rw [Bool.or_eq_false_iff, bne_eq_false_iff_eq, bne_eq_false_iff_eq] at h
  exact ⟨h.1, h.2⟩

def credentials (u : Url) : String × String := (u.username, u.password)

theorem Anonymous.of_credentials {u v : Url} (h : u.Anonymous)
    (same : v.credentials = u.credentials) : v.Anonymous :=
  ⟨(congrArg Prod.fst same).trans h.username_eq, (congrArg Prod.snd same).trans h.password_eq⟩

/-! ## What leaves them as they are -/

theorem credentials_mapAuthority (u : Url) {f : Authority → Authority}
    (name : ∀ a, (f a).username = a.username) (word : ∀ a, (f a).password = a.password) :
    (u.mapAuthority f).credentials = u.credentials := by
  obtain ⟨scheme, authority, dotGuard, path, query, fragment⟩ := u
  cases authority with
  | none => rfl
  | some a => exact Prod.ext (name a) (word a)

theorem credentials_withHost (u : Url) (host : HostName) (port : Option (Option Nat)) :
    (u.withHost host port).credentials = u.credentials := by
  obtain ⟨scheme, authority, dotGuard, path, query, fragment⟩ := u
  cases authority with
  | none => cases port <;> rfl
  | some a => cases port <;> rfl

theorem credentials_withPort (u : Url) (port : Option Nat) :
    (u.withPort port).credentials = u.credentials :=
  credentials_mapAuthority u (f := fun a => { a with port := port }) (fun _ => rfl) fun _ => rfl

theorem credentials_ite {u v w : Url} {p : Prop} [Decidable p]
    (left : v.credentials = u.credentials) (right : w.credentials = u.credentials) :
    (if p then v else w).credentials = u.credentials := by
  split
  · exact left
  · exact right

theorem credentials_trimOpaque (u : Url) : u.trimOpaque.credentials = u.credentials :=
  credentials_ite rfl rfl

theorem credentials_withQuery (u : Url) (text : Option (List Char)) :
    (u.withQuery text).credentials = u.credentials := by
  cases text with
  | some cs => rfl
  | none => exact credentials_trimOpaque { u with query := none }

theorem credentials_withFragment (u : Url) (text : Option (List Char)) :
    (u.withFragment text).credentials = u.credentials := by
  cases text with
  | some cs => rfl
  | none => exact credentials_trimOpaque { u with fragment := none }

theorem credentials_updatePairs (u : Url) (change : Entries → Entries) :
    (u.updatePairs change).credentials = u.credentials :=
  credentials_ite (credentials_withQuery u none) rfl

theorem credentials_setProtocol (u : Url) (value : String) :
    (u.setProtocol value).credentials = u.credentials := by
  unfold setProtocol
  cases readScheme? true (Text.upTo ':' value.toList) with
  | none => rfl
  | some read =>
    refine credentials_ite rfl (credentials_ite ?_ rfl)
    exact credentials_mapAuthority { u with scheme := read.1 } (fun _ => rfl) fun _ => rfl

theorem credentials_setHost (u : Url) (value : String) :
    (u.setHost value).credentials = u.credentials := by
  unfold setHost
  refine credentials_ite rfl (credentials_ite (credentials_withHost u _ _) ?_)
  cases readHost u.kind value.toList with
  | error e => rfl
  | ok read => exact credentials_ite rfl (credentials_withHost u _ _)

theorem credentials_setHostname (u : Url) (value : String) :
    (u.setHostname value).credentials = u.credentials := by
  unfold setHostname
  refine credentials_ite rfl (credentials_ite (credentials_withHost u _ _) ?_)
  cases readHost u.kind value.toList with
  | error e => rfl
  | ok read => exact credentials_ite rfl (credentials_ite rfl (credentials_withHost u _ _))

theorem credentials_setPort (u : Url) (value : String) :
    (u.setPort value).credentials = u.credentials := by
  unfold setPort
  refine credentials_ite ?_ rfl
  cases readComponentPort? u.scheme value.toList with
  | none => rfl
  | some port => exact credentials_withPort u port

theorem credentials_setPathname (u : Url) (value : String) :
    (u.setPathname value).credentials = u.credentials :=
  credentials_ite rfl (credentials_ite rfl rfl)

theorem credentials_setComponent (u : Url) {c : Component} (name : c ≠ .username)
    (word : c ≠ .password) (value : String) :
    (u.setComponent c value).credentials = u.credentials := by
  cases c with
  | protocol => exact credentials_setProtocol u value
  | username => exact absurd rfl name
  | password => exact absurd rfl word
  | host => exact credentials_setHost u value
  | hostname => exact credentials_setHostname u value
  | port => exact credentials_setPort u value
  | pathname => exact credentials_setPathname u value
  | search => exact credentials_withQuery u _
  | hash => exact credentials_withFragment u _

/-! ## What removes them -/

theorem Anonymous.mapAuthority {u : Url} (h : u.Anonymous) {f : Authority → Authority}
    (name : ∀ a, a.username = "" → (f a).username = "")
    (word : ∀ a, a.password = "" → (f a).password = "") : (u.mapAuthority f).Anonymous := by
  obtain ⟨scheme, authority, dotGuard, path, query, fragment⟩ := u
  cases authority with
  | none => exact ⟨rfl, rfl⟩
  | some a => exact ⟨name a h.username_eq, word a h.password_eq⟩

theorem encodeUserinfo_empty : encodeUserinfo "" = "" := by decide

/-- Whatever is set to the empty text, no credential comes of it. -/
theorem Anonymous.setComponent_empty {u : Url} (h : u.Anonymous) (c : Component) :
    (u.setComponent c "").Anonymous := by
  by_cases name : c = .username
  · subst name
    change (if u.takesCredentials then _ else u).Anonymous
    split
    · exact h.mapAuthority (fun _ _ => encodeUserinfo_empty) fun _ h => h
    · exact h
  · by_cases word : c = .password
    · subst word
      change (if u.takesCredentials then _ else u).Anonymous
      split
      · exact h.mapAuthority (fun _ h => h) fun _ _ => encodeUserinfo_empty
      · exact h
    · exact h.of_credentials (credentials_setComponent u name word "")

end WebFetch.Url
