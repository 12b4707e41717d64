import HttpService.Client.Basic
import HttpService.Proofs.Settings.Conversion

/-!
# The client of valid settings

Validation asks no more of the base address of a client than that it starts with a scheme of the web
and two slashes. The client is made exactly if a reader of addresses takes the address for one. So
valid settings may have a base address that no host stands in, and then there is no client for them.
-/

namespace HttpService

/-! ## Addresses without a host -/

/-- The schemes of the web. -/
inductive IsWeb : String → Prop
  | http : IsWeb "http"
  | https : IsWeb "https"

/-- The addresses of the web that have no host: behind the scheme there is nothing but slashes
before the end, a query or a fragment. -/
inductive Hostless : String → Prop
  | intro {scheme : String} {slashes rest : List Char} (web : IsWeb scheme)
      (slash : ∀ c ∈ slashes, c = '/' ∨ c = '\\') (bare : ∀ c ∈ rest.head?, c = '?' ∨ c = '#') :
      Hostless (scheme ++ "://" ++ String.ofList (slashes ++ rest))

/-- The reader takes no address of the web without a host. -/
def UrlReader.WantsHosts (urls : UrlReader) : Prop :=
  ∀ text, Hostless text → ∃ reason, urls.read text = .error reason

theorem hostless_bare {scheme : String} (web : IsWeb scheme) : Hostless (scheme ++ "://") := by
  have bare : Hostless (scheme ++ "://" ++ String.ofList ([] ++ [])) :=
    .intro web (by simp) (by simp)
  simpa using bare

/-- An address in which something else follows the two slashes is not without a host. -/
theorem not_hostless {scheme : String} {c : Char} {cs : List Char} (web : IsWeb scheme)
    (other : c ≠ '/' ∧ c ≠ '\\' ∧ c ≠ '?' ∧ c ≠ '#') :
    ¬ Hostless (scheme ++ "://" ++ String.ofList (c :: cs)) := by
  intro hostless
  generalize whole : scheme ++ "://" ++ String.ofList (c :: cs) = text at hostless
  obtain @⟨scheme', slashes, rest, web', slash, bare⟩ := hostless
  have behind : c :: cs = slashes ++ rest := by
    have chars := congrArg String.toList whole
    cases web with
    | http =>
        cases web' with
        | http => simpa using chars
        | https => simp at chars
    | https =>
        cases web' with
        | http => simp at chars
        | https => simpa using chars
  cases slashes with
  | nil =>
      have first : c = '?' ∨ c = '#' := bare c (by rw [← List.nil_append rest, ← behind]; rfl)
      exact first.elim other.2.2.1 other.2.2.2
  | cons d slashes =>
      obtain ⟨rfl, -⟩ := List.cons.inj behind
      exact (slash c List.mem_cons_self).elim other.1 other.2.1

theorem UrlReader.wantsHosts_only {address : String} (hosted : ¬ Hostless address) :
    (only address).WantsHosts := by
  intro text hostless
  refine ⟨"unknown address", if_neg ?_⟩
  rintro rfl
  exact hosted hostless

/-! ## What validation looks at -/

namespace ClientSettings

variable {s : ClientSettings}

theorem exists_baseUrl (valid : s.validate = .ok ()) :
    ∃ scheme text, IsWeb scheme ∧ s.baseUrl = scheme ++ "://" ++ text := by
  obtain ⟨begins, -⟩ := rule_seq_eq_ok.mp valid
  rw [demand_eq_ok, Bool.or_eq_true] at begins
  have split {start : String} (found : Text.startsWith s.baseUrl start = true) :
      ∃ text, s.baseUrl = start ++ text := by
    obtain ⟨text, whole⟩ := List.isPrefixOf_iff_prefix.mp found
    refine ⟨String.ofList text, String.toList_inj.mp ?_⟩
    rw [String.toList_append, String.toList_ofList, whole]
  rcases begins with found | found
  · obtain ⟨text, whole⟩ := split found
    exact ⟨"http", text, .http, whole⟩
  · obtain ⟨text, whole⟩ := split found
    exact ⟨"https", text, .https, whole⟩

theorem toConfig_of_valid (valid : s.validate = .ok ()) : s.toConfig = .ok s.wanted := by
  obtain ⟨-, timed⟩ := rule_seq_eq_ok.mp valid
  obtain ⟨-, ordered⟩ := rule_seq_eq_ok.mp timed
  rw [demand_eq_ok, decide_eq_true_eq] at ordered
  exact toConfig_eq_wanted ordered

/-- Nothing is asked of what stands behind the two slashes. -/
theorem validate_withBaseUrl (valid : s.validate = .ok ()) {scheme : String} (web : IsWeb scheme)
    (text : String) :
    ClientSettings.validate { s with baseUrl := scheme ++ "://" ++ text } = .ok () := by
  obtain ⟨-, others⟩ := rule_seq_eq_ok.mp valid
  refine rule_seq_eq_ok.mpr ⟨?_, others⟩
  rw [demand_eq_ok, Bool.or_eq_true]
  have begins (start : String) : Text.startsWith (start ++ text) start = true := by
    simp [Text.startsWith, List.isPrefixOf_iff_prefix]
  cases web with
  | http => exact .inl (begins "http://")
  | https => exact .inr (begins "https://")

end ClientSettings

/-! ## The client -/

/-- What is reported of a base address that the reader refuses. -/
def Client.refusedBase (baseUrl reason : String) : Failure :=
  refusedArgument ("invalid base URL " ++ Text.quoted baseUrl) reason

/-- What becomes of valid settings of a client with a reader of addresses. -/
structure ClientSettings.Yields (s : ClientSettings) (urls : UrlReader) : Prop where
  config : s.toConfig = .ok s.wanted
  carries : s.Fits → s.wanted.Carries s
  made : ∀ url, urls.read s.baseUrl = .ok url →
    Client.new urls s.wanted = .ok ⟨urls, s.wanted, [("user-agent", "dfs-http-client/0.1.0")]⟩
  refused : ∀ reason, urls.read s.baseUrl = .error reason →
    Client.new urls s.wanted = .error (Client.refusedBase s.baseUrl reason)

theorem ClientSettings.yields {s : ClientSettings} (valid : s.validate = .ok ())
    (urls : UrlReader) : s.Yields urls where
  config := toConfig_of_valid valid
  carries := carries_wanted
  made url read := by
    have base : urls.read s.wanted.baseUrl = .ok url := read
    have agent : Headers.legalValue s.wanted.userAgent = true := by
      change Headers.legalValue "dfs-http-client/0.1.0" = true
      decide
    unfold Client.new
    rw [base, agent]
    rfl
  refused reason read := by
    have base : urls.read s.wanted.baseUrl = .error reason := read
    unfold Client.new
    rw [base]
    rfl

namespace Settings

def withBaseUrl (s : Settings) (baseUrl : String) : Settings :=
  { s with client := { s.client with baseUrl := baseUrl } }

/-- Valid settings have a base address of the web, and a client is made of them exactly if the reader
takes it for an address; it is the client that they ask for. With any other text behind the two
slashes they are valid as well, and with one that no host stands in they give no client. -/
theorem client_yields {s : Settings} {urls : UrlReader} {filters : FilterReader}
    (wants : urls.WantsHosts) (valid : s.validate filters = .ok ()) :
    (∃ scheme text, IsWeb scheme ∧ s.client.baseUrl = scheme ++ "://" ++ text) ∧
    s.client.Yields urls ∧
    (∀ scheme text, IsWeb scheme →
      (s.withBaseUrl (scheme ++ "://" ++ text)).validate filters = .ok ()) ∧
    ∀ baseUrl, Hostless baseUrl → (s.withBaseUrl baseUrl).validate filters = .ok () ∧
      ∃ reason, Client.new urls (s.withBaseUrl baseUrl).client.wanted =
        .error (Client.refusedBase baseUrl reason) := by
  obtain ⟨server, auth, client, others⟩ := validate_eq_ok.mp valid
  have replaced (scheme text : String) (web : IsWeb scheme) :
      (s.withBaseUrl (scheme ++ "://" ++ text)).validate filters = .ok () :=
    validate_eq_ok.mpr ⟨server, auth, ClientSettings.validate_withBaseUrl client web text, others⟩
  refine ⟨ClientSettings.exists_baseUrl client, ClientSettings.yields client urls, replaced, ?_⟩
  intro baseUrl hostless
  obtain ⟨reason, refused⟩ := wants baseUrl hostless
  have valid' : (s.withBaseUrl baseUrl).validate filters = .ok () := by
    cases hostless with
    | intro web slash bare => exact replaced _ _ web
  have yields := ClientSettings.yields (validate_eq_ok.mp valid').2.2.1 urls
  exact ⟨valid', reason, yields.refused reason refused⟩

/-- A host and a port; and two slashes more, where the host is missing. -/
theorem client_yields_port :
    let s : Settings := { client := { baseUrl := "http://meta:9000/" } }
    let urls : UrlReader := .only "http://meta:9000/"
    urls.WantsHosts ∧ s.validate .levels = .ok () ∧
      Client.new urls s.client.wanted =
        .ok ⟨urls, s.client.wanted, [("user-agent", "dfs-http-client/0.1.0")]⟩ ∧
      (s.withBaseUrl "https:////").validate .levels = .ok () ∧
      ∃ f, Client.new urls (s.withBaseUrl "https:////").client.wanted = .error f := by
  intro s urls
  have hosted : ¬ Hostless ("http" ++ "://" ++ String.ofList ('m' :: "eta:9000/".toList)) :=
    not_hostless .http (by decide)
  have wants : urls.WantsHosts := UrlReader.wantsHosts_only (by simpa using hosted)
  have valid : s.validate .levels = .ok () := by
    unfold s
    exact validate_eq_ok.mpr ⟨rfl, rfl, rfl, rfl, rfl⟩
  have hostless : Hostless "https:////" :=
    @Hostless.intro "https" ['/', '/'] [] .https (by simp) (by simp)
  obtain ⟨-, yields, -, others⟩ := client_yields wants valid
  obtain ⟨valid', reason, refused⟩ := others "https:////" hostless
  exact ⟨wants, valid, yields.made _ (UrlReader.read_only rfl), valid', _, refused⟩

/-- So validation lets a base address pass that no client is made for, whatever filters there are
beside the names of levels and whatever addresses there are with a host. -/
theorem not_always_client :
    let s : Settings := { client := { baseUrl := "http://" } }
    s.Fits ∧ (∀ filters : FilterReader, filters.KnowsLevels → s.validate filters = .ok ()) ∧
      ∃ config, s.client.toConfig = .ok config ∧
        ∀ urls : UrlReader, urls.WantsHosts → ∃ f, Client.new urls config = .error f := by
  intro s
  have fits : s.Fits :=
    ⟨⟨by decide, by decide, by decide, by decide, by decide⟩, by decide,
      ⟨by decide, ⟨by decide, by decide, by decide⟩⟩, ⟨by decide, by decide⟩⟩
  have client : ClientSettings.validate { baseUrl := "http://" } = .ok () := rfl
  refine ⟨fits, fun filters knows => ?_, s.client.wanted,
    ClientSettings.toConfig_of_valid client, fun urls wants => ?_⟩
  · unfold s
    exact validate_eq_ok.mpr ⟨rfl, rfl, client, rfl, LoggingSettings.validate_standard knows⟩
  · obtain ⟨reason, refused⟩ := wants "http://" (hostless_bare .http)
    exact ⟨_, (ClientSettings.yields client urls).refused reason refused⟩

end Settings

end HttpService
