import HttpService.Proofs.Json.Members
import HttpService.Settings.Basic

/-!
# Settings as documents

Settings are read back from their own document. From a document in which sections and values with a
default have been left out they are read with the default settings' values in these places, and from
a document that names in some section what is not known there, or anything twice, they are not read
at all.
-/

namespace HttpService

/-! ## Numbers of the machine -/

structure ServerSettings.Fits (s : ServerSettings) : Prop where
  readTimeout : s.readTimeoutSecs ≤ wordBound
  writeTimeout : s.writeTimeoutSecs ≤ wordBound
  idleTimeout : s.idleTimeoutSecs ≤ wordBound
  shutdownTimeout : s.shutdownTimeoutSecs ≤ wordBound
  maxBodyBytes : s.maxBodyBytes ≤ wordBound

structure RetrySettings.Fits (s : RetrySettings) : Prop where
  maxRetries : s.maxRetries ≤ halfWordBound
  baseInterval : s.baseIntervalMs ≤ wordBound
  maxBackoff : s.maxBackoffMs ≤ wordBound

structure ClientSettings.Fits (s : ClientSettings) : Prop where
  timeout : s.timeoutSecs ≤ wordBound
  retry : s.retry.Fits

structure RateLimitSettings.Fits (s : RateLimitSettings) : Prop where
  limit : s.limit ≤ wordBound
  window : s.windowSecs ≤ wordBound

/-- The numbers fit in the words that hold them. -/
structure Settings.Fits (s : Settings) : Prop where
  server : s.server.Fits
  tokenExpiration : s.auth.tokenExpirationMinutes ≤ wordBound
  client : s.client.Fits
  rateLimit : s.rateLimit.Fits

/-! ## Sections without what is gone -/

section

variable {gone : List String → Bool} (level : Nat)

theorem reads_word {n : Nat} (le : n ≤ wordBound) :
    Json.Reader.natUpTo wordBound level ((Json.ofNat n).without gone).document = .ok n :=
  Json.Reader.natUpTo_ofNat level le (by decide)

theorem reads_halfWord {n : Nat} (le : n ≤ halfWordBound) :
    Json.Reader.natUpTo halfWordBound level ((Json.ofNat n).without gone).document = .ok n :=
  Json.Reader.natUpTo_ofNat level le (by decide)

theorem reads_text? (s : Option String) :
    Json.Reader.string.option level ((Json.ofText? s).without gone).document = .ok s := by
  cases s with
  | none => rfl
  | some s => exact Json.Reader.option_text level s

theorem reads_bool (b : Bool) :
    Json.Reader.bool level ((Json.bool b).without gone).document = .ok b :=
  rfl

theorem reads_texts (ss : List String) :
    Json.Reader.string.list (level + 1) ((Json.array (ss.map .text)).without gone).document =
      .ok ss :=
  Json.Reader.list_texts level ss

theorem LogFormat.reads_name (f : LogFormat) :
    reader level ((Json.text f.name).without gone).document = .ok f := by
  have named : ofName? f.name = some f := by cases f <;> decide
  change (Json.pieces (Json.writtenPieces f.name) >>= _) = _
  rw [Json.pieces_writtenPieces]
  simp only [bind, Except.bind, named]

end

/-- Neither file has a default. -/
theorem TlsSettings.reader_without (s : TlsSettings) {gone : List String → Bool} (level : Nat)
    (cert : gone ["cert"] = false) (key : gone ["key"] = false) :
    reader (level + 1) (s.toJson.without gone).document = .ok s := by
  rw [reader, toJson, Json.Reader.record_without level (by simp [names]) (by simp)]
  refine Json.required_bind rfl cert (Json.Reader.string_text ..) ?_
  exact Json.required_bind rfl key (Json.Reader.string_text ..) rfl

namespace ServerSettings

def without (gone : List String → Bool) (s : ServerSettings) : ServerSettings :=
  let d := ({} : Settings).server
  { bindAddr := if gone ["bind_addr"] then d.bindAddr else s.bindAddr
    readTimeoutSecs := if gone ["read_timeout_secs"] then d.readTimeoutSecs else s.readTimeoutSecs
    writeTimeoutSecs :=
      if gone ["write_timeout_secs"] then d.writeTimeoutSecs else s.writeTimeoutSecs
    idleTimeoutSecs := if gone ["idle_timeout_secs"] then d.idleTimeoutSecs else s.idleTimeoutSecs
    shutdownTimeoutSecs :=
      if gone ["shutdown_timeout_secs"] then d.shutdownTimeoutSecs else s.shutdownTimeoutSecs
    maxBodyBytes := if gone ["max_body_bytes"] then d.maxBodyBytes else s.maxBodyBytes
    tls := if gone ["tls"] then d.tls else s.tls }

theorem reader_without {s : ServerSettings} (fits : s.Fits) {gone : List String → Bool}
    (level : Nat) (cert : gone ["tls", "cert"] = false) (key : gone ["tls", "key"] = false) :
    reader (level + 2) (s.toJson.without gone).document = .ok (s.without gone) := by
  rw [reader, toJson, Json.Reader.record_without (level + 1) (by simp [names]) (by simp)]
  -- One step for each field, in the order of the reader.
  refine Json.defaulted_bind rfl (fun _ => Json.Reader.string_text ..) ?_
  refine Json.defaulted_bind rfl (fun _ => reads_word _ fits.readTimeout) ?_
  refine Json.defaulted_bind rfl (fun _ => reads_word _ fits.writeTimeout) ?_
  refine Json.defaulted_bind rfl (fun _ => reads_word _ fits.idleTimeout) ?_
  refine Json.defaulted_bind rfl (fun _ => reads_word _ fits.shutdownTimeout) ?_
  refine Json.defaulted_bind rfl (fun _ => reads_word _ fits.maxBodyBytes) ?_
  refine Json.defaulted_bind rfl (fun _ => ?_) rfl
  cases s.tls with
  | none => rfl
  | some files => exact congrArg (Except.map some) (files.reader_without level cert key)

end ServerSettings

namespace AuthSettings

def without (gone : List String → Bool) (s : AuthSettings) : AuthSettings :=
  let d := ({} : Settings).auth
  { tokenSecret := if gone ["token_secret"] then d.tokenSecret else s.tokenSecret
    tokenExpirationMinutes :=
      if gone ["token_expiration_minutes"] then d.tokenExpirationMinutes
      else s.tokenExpirationMinutes
    issuer := if gone ["issuer"] then d.issuer else s.issuer
    publicPaths := if gone ["public_paths"] then d.publicPaths else s.publicPaths }

theorem reader_without {s : AuthSettings} (fits : s.tokenExpirationMinutes ≤ wordBound)
    {gone : List String → Bool} (level : Nat) :
    reader (level + 2) (s.toJson.without gone).document = .ok (s.without gone) := by
  rw [reader, toJson, Json.Reader.record_without (level + 1) (by simp [names]) (by simp)]
  refine Json.defaulted_bind rfl (fun _ => reads_text? _ s.tokenSecret) ?_
  refine Json.defaulted_bind rfl (fun _ => reads_word _ fits) ?_
  refine Json.defaulted_bind rfl (fun _ => reads_text? _ s.issuer) ?_
  exact Json.defaulted_bind rfl (fun _ => reads_texts level s.publicPaths) rfl

end AuthSettings

namespace RetrySettings

def without (gone : List String → Bool) (s : RetrySettings) : RetrySettings :=
  let d := ({} : Settings).client.retry
  { maxRetries := if gone ["max_retries"] then d.maxRetries else s.maxRetries
    baseIntervalMs := if gone ["base_interval_ms"] then d.baseIntervalMs else s.baseIntervalMs
    maxBackoffMs := if gone ["max_backoff_ms"] then d.maxBackoffMs else s.maxBackoffMs }

theorem reader_without {s : RetrySettings} (fits : s.Fits) {gone : List String → Bool}
    (level : Nat) : reader (level + 1) (s.toJson.without gone).document = .ok (s.without gone) := by
  rw [reader, toJson, Json.Reader.record_without level (by simp [names]) (by simp)]
  refine Json.defaulted_bind rfl (fun _ => reads_halfWord _ fits.maxRetries) ?_
  refine Json.defaulted_bind rfl (fun _ => reads_word _ fits.baseInterval) ?_
  exact Json.defaulted_bind rfl (fun _ => reads_word _ fits.maxBackoff) rfl

end RetrySettings

namespace ClientSettings

def without (gone : List String → Bool) (s : ClientSettings) : ClientSettings :=
  let d := ({} : Settings).client
  { baseUrl := if gone ["base_url"] then d.baseUrl else s.baseUrl
    timeoutSecs := if gone ["timeout_secs"] then d.timeoutSecs else s.timeoutSecs
    retry := if gone ["retry"] then d.retry
      else s.retry.without fun place => gone ("retry" :: place) }

theorem reader_without {s : ClientSettings} (fits : s.Fits) {gone : List String → Bool}
    (level : Nat) : reader (level + 2) (s.toJson.without gone).document = .ok (s.without gone) := by
  rw [reader, toJson, Json.Reader.record_without (level + 1) (by simp [names]) (by simp)]
  refine Json.defaulted_bind rfl (fun _ => Json.Reader.string_text ..) ?_
  refine Json.defaulted_bind rfl (fun _ => reads_word _ fits.timeout) ?_
  exact Json.defaulted_bind rfl (fun _ => RetrySettings.reader_without fits.retry level) rfl

end ClientSettings

namespace RateLimitSettings

def without (gone : List String → Bool) (s : RateLimitSettings) : RateLimitSettings :=
  let d := ({} : Settings).rateLimit
  { enabled := if gone ["enabled"] then d.enabled else s.enabled
    limit := if gone ["limit"] then d.limit else s.limit
    windowSecs := if gone ["window_secs"] then d.windowSecs else s.windowSecs }

theorem reader_without {s : RateLimitSettings} (fits : s.Fits) {gone : List String → Bool}
    (level : Nat) : reader (level + 1) (s.toJson.without gone).document = .ok (s.without gone) := by
  rw [reader, toJson, Json.Reader.record_without level (by simp [names]) (by simp)]
  refine Json.defaulted_bind rfl (fun _ => reads_bool level s.enabled) ?_
  refine Json.defaulted_bind rfl (fun _ => reads_word _ fits.limit) ?_
  exact Json.defaulted_bind rfl (fun _ => reads_word _ fits.window) rfl

end RateLimitSettings

namespace LoggingSettings

def without (gone : List String → Bool) (s : LoggingSettings) : LoggingSettings :=
  let d := ({} : Settings).logging
  { enabled := if gone ["enabled"] then d.enabled else s.enabled
    level := if gone ["level"] then d.level else s.level
    format := if gone ["format"] then d.format else s.format }

theorem reader_without (s : LoggingSettings) {gone : List String → Bool} (level : Nat) :
    reader (level + 1) (s.toJson.without gone).document = .ok (s.without gone) := by
  rw [reader, toJson, Json.Reader.record_without level (by simp [names]) (by simp)]
  refine Json.defaulted_bind rfl (fun _ => reads_bool level s.enabled) ?_
  refine Json.defaulted_bind rfl (fun _ => Json.Reader.string_text ..) ?_
  exact Json.defaulted_bind rfl (fun _ => s.format.reads_name level) rfl

end LoggingSettings

namespace Settings

/-- The settings with the default settings' values in the places that are gone. -/
def without (gone : List String → Bool) (s : Settings) : Settings :=
  let d : Settings := {}
  { server := if gone ["server"] then d.server
      else s.server.without fun place => gone ("server" :: place)
    auth := if gone ["auth"] then d.auth else s.auth.without fun place => gone ("auth" :: place)
    client := if gone ["client"] then d.client
      else s.client.without fun place => gone ("client" :: place)
    rateLimit := if gone ["rate_limit"] then d.rateLimit
      else s.rateLimit.without fun place => gone ("rate_limit" :: place)
    logging := if gone ["logging"] then d.logging
      else s.logging.without fun place => gone ("logging" :: place) }

theorem reader_without {s : Settings} (fits : s.Fits) {gone : List String → Bool} (level : Nat)
    (cert : gone ["server", "tls", "cert"] = false) (key : gone ["server", "tls", "key"] = false) :
    reader (level + 3) (s.toJson.without gone).document = .ok (s.without gone) := by
  rw [reader, toJson, Json.Reader.record_without (level + 2) (by simp [names]) (by simp)]
  refine Json.defaulted_bind rfl
    (fun _ => ServerSettings.reader_without fits.server level cert key) ?_
  refine Json.defaulted_bind rfl
    (fun _ => AuthSettings.reader_without fits.tokenExpiration level) ?_
  refine Json.defaulted_bind rfl (fun _ => ClientSettings.reader_without fits.client level) ?_
  refine Json.defaulted_bind rfl
    (fun _ => RateLimitSettings.reader_without fits.rateLimit (level + 1)) ?_
  exact Json.defaulted_bind rfl (fun _ => s.logging.reader_without (level + 1)) rfl

theorem without_none (s : Settings) : s.without (fun _ => false) = s :=
  rfl

/-- Where a document has sections, and the names that each of them knows. -/
def sections : List (List String × List String) :=
  [([], names), (["server"], ServerSettings.names), (["server", "tls"], TlsSettings.names),
   (["auth"], AuthSettings.names), (["client"], ClientSettings.names),
   (["client", "retry"], RetrySettings.names), (["rate_limit"], RateLimitSettings.names),
   (["logging"], LoggingSettings.names)]

end Settings

/-! ## Sections with more than they know -/

section

open Json

theorem TlsSettings.closedAt : reader.ClosedAt [] names :=
  Reader.closedAt_record

theorem RetrySettings.closedAt : reader.ClosedAt [] names :=
  Reader.closedAt_record

namespace ServerSettings

theorem closedAt_tls : reader.ClosedAt ["tls"] TlsSettings.names := by
  apply TlsSettings.closedAt.option.inside
  intro f s built
  simp only [bind_eq_ok] at built
  obtain ⟨_, -, _, -, _, -, _, -, _, -, _, -, tls, read, -⟩ := built
  exact ⟨none, tls, read⟩

end ServerSettings

namespace ClientSettings

theorem closedAt_retry : reader.ClosedAt ["retry"] RetrySettings.names := by
  apply RetrySettings.closedAt.inside
  intro f s built
  simp only [bind_eq_ok] at built
  obtain ⟨_, -, _, -, retry, read, -⟩ := built
  exact ⟨{}, retry, read⟩

end ClientSettings

namespace Settings

variable {place known : List String}

theorem closedAt_server (closed : ServerSettings.reader.ClosedAt place known) :
    reader.ClosedAt ("server" :: place) known := by
  apply closed.inside
  intro f s built
  simp only [bind_eq_ok] at built
  obtain ⟨server, read, -⟩ := built
  exact ⟨{}, server, read⟩

theorem closedAt_auth (closed : AuthSettings.reader.ClosedAt place known) :
    reader.ClosedAt ("auth" :: place) known := by
  apply closed.inside
  intro f s built
  simp only [bind_eq_ok] at built
  obtain ⟨_, -, auth, read, -⟩ := built
  exact ⟨{}, auth, read⟩

theorem closedAt_client (closed : ClientSettings.reader.ClosedAt place known) :
    reader.ClosedAt ("client" :: place) known := by
  apply closed.inside
  intro f s built
  simp only [bind_eq_ok] at built
  obtain ⟨_, -, _, -, client, read, -⟩ := built
  exact ⟨{}, client, read⟩

theorem closedAt_rateLimit (closed : RateLimitSettings.reader.ClosedAt place known) :
    reader.ClosedAt ("rate_limit" :: place) known := by
  apply closed.inside
  intro f s built
  simp only [bind_eq_ok] at built
  obtain ⟨_, -, _, -, _, -, rateLimit, read, -⟩ := built
  exact ⟨{}, rateLimit, read⟩

theorem closedAt_logging (closed : LoggingSettings.reader.ClosedAt place known) :
    reader.ClosedAt ("logging" :: place) known := by
  apply closed.inside
  intro f s built
  simp only [bind_eq_ok] at built
  obtain ⟨_, -, _, -, _, -, _, -, logging, read, -⟩ := built
  exact ⟨{}, logging, read⟩

theorem closedAt_sections (listed : (place, known) ∈ sections) : reader.ClosedAt place known := by
  simp only [sections, List.mem_cons, Prod.mk.injEq, List.not_mem_nil, or_false] at listed
  rcases listed with ⟨rfl, rfl⟩ | ⟨rfl, rfl⟩ | ⟨rfl, rfl⟩ | ⟨rfl, rfl⟩ | ⟨rfl, rfl⟩ | ⟨rfl, rfl⟩ |
    ⟨rfl, rfl⟩ | ⟨rfl, rfl⟩
  · exact Reader.closedAt_record
  · exact closedAt_server Reader.closedAt_record
  · exact closedAt_server ServerSettings.closedAt_tls
  · exact closedAt_auth Reader.closedAt_record
  · exact closedAt_client Reader.closedAt_record
  · exact closedAt_client ClientSettings.closedAt_retry
  · exact closedAt_rateLimit Reader.closedAt_record
  · exact closedAt_logging Reader.closedAt_record

end Settings

end

/-! ## The laws of the encoding -/

namespace Settings

/-- Settings are read back from their own document. What is left out of it, the two files of the
server apart, is read as it is in the default settings. No text is read in which some section has a
name that it does not know, or has a name twice. -/
theorem read_encoded {s : Settings} (fits : s.Fits) :
    Json.read reader s.toJson.render = .ok s ∧
      (∀ gone : List String → Bool, gone ["server", "tls", "cert"] = false →
        gone ["server", "tls", "key"] = false →
        Json.read reader (s.toJson.without gone).render = .ok (s.without gone)) ∧
      ∀ (text : String) (d : Json.Document) (place known : List String)
        (ms : List (List Json.Piece × Json.Document)),
        Json.Document.parse? text.toList = some d → (place, known) ∈ sections →
        d.ObjectAt place ms → ¬ Json.KnownOnce known ms →
        ∃ fault, Json.read reader text = .error fault := by
  have partly (gone : List String → Bool) (cert : gone ["server", "tls", "cert"] = false)
      (key : gone ["server", "tls", "key"] = false) :
      Json.read reader (s.toJson.without gone).render = .ok (s.without gone) := by
    rw [Json.read_render]
    exact reader_without fits 124 cert key
  refine ⟨?_, partly, ?_⟩
  · -- The whole document is the one of which nothing is gone.
    have whole := partly (fun _ => false) rfl rfl
    rwa [Json.without_none, without_none] at whole
  · intro text d place known ms parsed listed object excess
    cases read : Json.read reader text with
    | error fault => exact ⟨fault, rfl⟩
    | ok t =>
        rw [Json.read, parsed] at read
        exact absurd (closedAt_sections listed read object) excess

/-- A document without a section, without a section's section and without some values; one with a
name that a section of a section does not know; one with a section given twice. -/
theorem read_encoded_partial :
    let files : TlsSettings := ⟨"cert.pem", "key.pem"⟩
    let s : Settings :=
      { server := { readTimeoutSecs := wordBound, idleTimeoutSecs := 5, tls := some files }
        auth := { issuer := some "dfs", publicPaths := [] }
        client := { baseUrl := "http://10.0.0.1", retry := { maxRetries := halfWordBound } }
        logging := { enabled := false, format := .pretty } }
    let gone (place : List String) : Bool :=
      place ∈
        [["server", "idle_timeout_secs"], ["auth"], ["client", "retry"], ["logging", "format"]]
    let unknown : Json :=
      .object [("client", .object [("retry", .object [("tries", Json.ofNat 3)])])]
    let twice : Json := .object [("server", .object []), ("auth", .null), ("server", .object [])]
    s.Fits ∧ Json.read reader s.toJson.render = .ok s ∧
      Json.read reader (s.toJson.without gone).render =
        .ok { s with
          server := { readTimeoutSecs := wordBound, tls := some files }
          auth := {}
          client := { baseUrl := "http://10.0.0.1" }
          logging := { enabled := false } } ∧
      (∃ fault, Json.read reader unknown.render = .error fault) ∧
      ∃ fault, Json.read reader twice.render = .error fault := by
  intro files s gone unknown twice
  have fits : s.Fits :=
    ⟨⟨by decide, by decide, by decide, by decide, by decide⟩, by decide,
      ⟨by decide, ⟨by decide, by decide, by decide⟩⟩, ⟨by decide, by decide⟩⟩
  obtain ⟨whole, partly, refused⟩ := read_encoded fits
  have parsed (j : Json) : Json.Document.parse? j.render.toList = some j.document := by
    rw [Json.render, String.toList_ofList, Json.parse?_renderChars j.legible]
  refine ⟨fits, whole, partly gone rfl rfl, ?_, ?_⟩
  · refine refused _ _ ["client", "retry"] RetrySettings.names _ (parsed unknown) (by decide)
      (.inside List.mem_cons_self (Json.pieces_writtenPieces _)
        (.inside List.mem_cons_self (Json.pieces_writtenPieces _) (.here _))) fun only => ?_
    obtain ⟨name, known, named⟩ := only.known _ List.mem_cons_self
    rw [Json.pieces_writtenPieces, Except.ok.injEq] at named
    exact absurd (named ▸ known) (by decide)
  · refine refused _ _ [] names _ (parsed twice) (by decide) (.here _) fun only => ?_
    exact (List.nodup_cons.mp only.once).1 (.tail _ (.head _))

end Settings

end HttpService
