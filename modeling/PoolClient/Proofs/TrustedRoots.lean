import PoolClient.Config.Options
import PoolClient.Proofs.Outcomes
/-!
# Trusted roots

A configuration with roots of its own gives a client that trusts these roots, all of them and in
their order, or it gives no client: what cannot be read is neither skipped nor replaced by another
policy. `Grants` says which policy a configuration grants, `Withholds` why it grants none, and the
two decide the outcome (`policy_eq_ok_iff`, `policy_eq_error_iff`). The URL is judged only after the
policy is granted (`options_fails_closed`).
-/

namespace PoolClient.Config

open Time

variable {File : Type} {file? : String → Option File} {t : TlsConfig} {c : Config}

/-! ## Policies -/

/-- The first of some files that cannot be read. -/
def firstUnreadable? (file? : String → Option File) (paths : List String) : Option String :=
  paths.find? fun path => (file? path).isNone

/-- The configuration grants the policy. Every file in its list has been read. -/
inductive Grants (file? : String → Option File) (t : TlsConfig) : TlsPolicy File → Prop where
  | strict (hmode : t.mode = .strict) : Grants file? t .strict
  | insecure (hmode : t.mode = .insecure) : Grants file? t .insecure
  | customRoots {files : List File} (hmode : t.mode = .customRoots) (hsome : t.certificates ≠ [])
      (hfiles : t.certificates.map file? = files.map some) : Grants file? t (.customRoots files)

/-- The configuration wants roots of its own, and grants no policy: it names no file, or one that
cannot be read. -/
inductive Withholds (file? : String → Option File) (t : TlsConfig) : ConfigError → Prop where
  | noRoots (hmode : t.mode = .customRoots) (hnone : t.certificates = []) :
      Withholds file? t .noRoots
  | missing {path : String} (hmode : t.mode = .customRoots)
      (hfirst : firstUnreadable? file? t.certificates = some path) :
      Withholds file? t (.missingCertificate path)

/-! ## Reading the files -/

theorem firstUnreadable?_eq_some_iff {paths : List String} {path : String} :
    firstUnreadable? file? paths = some path ↔ ∃ before after, paths = before ++ path :: after ∧
      (∀ p ∈ before, ∃ file, file? p = some file) ∧ file? path = none := by
  simp only [firstUnreadable?, List.find?_eq_some_iff_append, Bool.not_eq_true',
    Option.isNone_iff_eq_none, Option.isNone_eq_false_iff, Option.isSome_iff_exists]
  constructor
  · rintro ⟨hpath, before, after, hpaths, hbefore⟩
    exact ⟨before, after, hpaths, hbefore, hpath⟩
  · rintro ⟨before, after, hpaths, hbefore, hpath⟩
    exact ⟨hpath, before, after, hpaths, hbefore⟩

theorem content_eq_ok_iff {path : String} {file : File} :
    content file? path = .ok file ↔ file? path = some file := by
  cases h : file? path <;> simp [content, h]

theorem content_eq_error_iff {path : String} {e : ConfigError} :
    content file? path = .error e ↔ file? path = none ∧ e = .missingCertificate path := by
  cases h : file? path <;> simp [content, h, eq_comm]

/-- Files are read if every one of them is, in their order. -/
theorem contents_eq_ok_iff {paths : List String} {files : List File} :
    contents file? paths = .ok files ↔ paths.map file? = files.map some := by
  rw [contents, mapM_eq_ok_iff, ← List.forall₂_eq_eq_eq, List.forall₂_map_left_iff,
    List.forall₂_map_right_iff]
  simp only [content_eq_ok_iff]

/-- Otherwise the first that cannot be read is reported. -/
theorem contents_eq_error_iff {paths : List String} {e : ConfigError} :
    contents file? paths = .error e ↔
      ∃ path, firstUnreadable? file? paths = some path ∧ e = .missingCertificate path := by
  simp only [contents, mapM_eq_error_iff, content_eq_ok_iff, content_eq_error_iff,
    firstUnreadable?_eq_some_iff]
  constructor
  · rintro ⟨before, path, after, hpaths, hbefore, hpath, he⟩
    exact ⟨path, ⟨before, after, hpaths, hbefore, hpath⟩, he⟩
  · rintro ⟨path, ⟨before, after, hpaths, hbefore, hpath⟩, he⟩
    exact ⟨before, path, after, hpaths, hbefore, hpath, he⟩

/-! ## Granting a policy -/

theorem policy_of_customRoots (hmode : t.mode = .customRoots) (hsome : t.certificates ≠ []) :
    policy file? t = (contents file? t.certificates).map .customRoots := by
  rw [policy, hmode]
  exact if_neg (by simpa using hsome)

theorem policy_of_noRoots (hmode : t.mode = .customRoots) (hnone : t.certificates = []) :
    policy file? t = .error .noRoots := by
  rw [policy, hmode, hnone]
  rfl

/-- What the configuration grants is its policy. -/
theorem Grants.policy_eq {p : TlsPolicy File} (h : Grants file? t p) : policy file? t = .ok p := by
  cases h with
  | strict hmode => rw [policy, hmode]
  | insecure hmode => rw [policy, hmode]
  | customRoots hmode hsome hfiles =>
    rw [policy_of_customRoots hmode hsome, contents_eq_ok_iff.2 hfiles]
    rfl

theorem Withholds.policy_eq {e : ConfigError} (h : Withholds file? t e) :
    policy file? t = .error e := by
  cases h with
  | noRoots hmode hnone => exact policy_of_noRoots hmode hnone
  | @missing path hmode hfirst =>
    have hsome : t.certificates ≠ [] := by
      rintro hnone
      rw [hnone] at hfirst
      cases hfirst
    rw [policy_of_customRoots hmode hsome, contents_eq_error_iff.2 ⟨path, hfirst, rfl⟩]
    rfl

/-- A configuration grants a policy or withholds it. -/
theorem grants_or_withholds (file? : String → Option File) (t : TlsConfig) :
    (∃ p, Grants file? t p) ∨ ∃ e, Withholds file? t e := by
  cases hmode : t.mode with
  | strict => exact .inl ⟨.strict, .strict hmode⟩
  | insecure => exact .inl ⟨.insecure, .insecure hmode⟩
  | customRoots =>
    by_cases hnone : t.certificates = []
    · exact .inr ⟨.noRoots, .noRoots hmode hnone⟩
    cases hcontents : contents file? t.certificates with
    | ok files =>
      exact .inl ⟨.customRoots files, .customRoots hmode hnone (contents_eq_ok_iff.1 hcontents)⟩
    | error e =>
      obtain ⟨path, hfirst, -⟩ := contents_eq_error_iff.1 hcontents
      exact .inr ⟨.missingCertificate path, .missing hmode hfirst⟩

theorem policy_eq_ok_iff {p : TlsPolicy File} : policy file? t = .ok p ↔ Grants file? t p := by
  refine ⟨fun h => ?_, Grants.policy_eq⟩
  obtain ⟨p', hgrants⟩ | ⟨e, hwithholds⟩ := grants_or_withholds file? t
  · obtain rfl := Except.ok.inj (h.symm.trans hgrants.policy_eq)
    exact hgrants
  · cases h.symm.trans hwithholds.policy_eq

theorem policy_eq_error_iff {e : ConfigError} :
    policy file? t = .error e ↔ Withholds file? t e := by
  refine ⟨fun h => ?_, Withholds.policy_eq⟩
  obtain ⟨p, hgrants⟩ | ⟨e', hwithholds⟩ := grants_or_withholds file? t
  · cases h.symm.trans hgrants.policy_eq
  · obtain rfl := Except.error.inj (h.symm.trans hwithholds.policy_eq)
    exact hwithholds

/-! ## Options -/

theorem endpoint_eq_ok_iff {endpoint : Endpoint} :
    c.endpoint = .ok endpoint ↔ Endpoint.parse c.url = .ok endpoint := by
  rw [Config.endpoint]
  cases Endpoint.parse c.url <;> simp [Except.mapError]

theorem endpoint_eq_error_iff {e : ConfigError} :
    c.endpoint = .error e ↔ (∃ e', Endpoint.parse c.url = .error e') ∧ e = .badUrl c.url := by
  rw [Config.endpoint]
  cases Endpoint.parse c.url <;> simp [Except.mapError, eq_comm]

theorem options_of_policy {p : TlsPolicy File} (h : policy file? c.tls = .ok p) :
    c.options file? =
      c.endpoint.map fun endpoint => ⟨endpoint, c.deadlineSeconds.map Duration.ofSeconds, p⟩ := by
  rw [options, h]
  cases c.endpoint <;> rfl

theorem options_of_policy_error {e : ConfigError} (h : policy file? c.tls = .error e) :
    c.options file? = .error e := by
  rw [options, h]

/-- A configuration gives options just if it grants their policy and its URL is one of an endpoint:
the usual roots or none if it says so, and otherwise one root for each file of its list, in order,
and at least one. If it wants roots of its own and names no file, or one that cannot be read, then
this is the error, which names the first such file, whatever the other files and the URL are. The
URL is an error only once the policy is granted. The deadline is the given number of whole
seconds. -/
theorem options_fails_closed (file? : String → Option File) (c : Config) :
    (∀ o, c.options file? = .ok o ↔
      Grants file? c.tls o.tls ∧ Endpoint.parse c.url = .ok o.endpoint ∧
        o.deadline = c.deadlineSeconds.map Duration.ofSeconds) ∧
      ∀ e, c.options file? = .error e ↔
        Withholds file? c.tls e ∨
          (∃ p, Grants file? c.tls p) ∧ (∃ e', Endpoint.parse c.url = .error e') ∧
            e = .badUrl c.url := by
  simp only [← policy_eq_ok_iff, ← policy_eq_error_iff, ← endpoint_eq_ok_iff,
    ← endpoint_eq_error_iff]
  cases hpolicy : policy file? c.tls with
  | error e =>
    rw [options_of_policy_error hpolicy]
    simp
  | ok p =>
    rw [options_of_policy hpolicy]
    cases c.endpoint with
    | error e => simp [Except.map]
    | ok endpoint =>
      refine ⟨fun o => ⟨fun h => ?_, ?_⟩, by simp [Except.map]⟩
      · obtain rfl := Except.ok.inj h
        exact ⟨rfl, rfl, rfl⟩
      · obtain ⟨endpoint', deadline, tls⟩ := o
        rintro ⟨htls, hendpoint, hdeadline⟩
        obtain rfl := Except.ok.inj htls
        obtain rfl := Except.ok.inj hendpoint
        obtain rfl := hdeadline
        rfl

/-- The second file is reported, and not the URL. -/
example : options (fun path => if path = "a.pem" then some () else none)
    ⟨"gopher://x", none, ⟨.customRoots, ["a.pem", "b.pem", "c.pem"]⟩, none⟩ =
      .error (.missingCertificate "b.pem") :=
  rfl

end PoolClient.Config
