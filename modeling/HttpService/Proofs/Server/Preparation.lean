import HttpService.Server.Lifecycle

/-!
# What comes before the loop

A start needs the material of its files, if it has files, and then a listener at the configured
address. It goes on if it gets both, and otherwise it fails for the first thing that it does not
get, whatever the library and the machine may refuse.
-/

namespace HttpService

namespace Machine

variable {m : Machine} {names : TlsFiles} {material : TlsMaterial} {f : Failure}

/-! ## Material -/

/-- Both files can be read. -/
structure Reads (m : Machine) (names : TlsFiles) (certPem keyPem : List UInt8) : Prop where
  cert : m.files names.cert = .ok certPem
  key : m.files names.key = .ok keyPem

/-- The files hold certificates and a key. -/
structure Holds (m : Machine) (names : TlsFiles) (material : TlsMaterial) : Prop where
  read : ∃ certPem keyPem, m.Reads names certPem keyPem ∧
    m.tls.certificates certPem = .ok material.chain ∧
    m.tls.privateKey? keyPem = .ok (some material.key)
  certified : material.chain ≠ []

/-- The library has a use for what the files hold. -/
structure Loads (m : Machine) (names : TlsFiles) (material : TlsMaterial) : Prop where
  holds : m.Holds names material
  versions : m.tls.versions = .ok ()
  accepted : m.tls.accept material.chain material.key = .ok ()

/-- Why files are of no use. -/
inductive Unusable (m : Machine) (names : TlsFiles) : Failure → Prop
  | cert {reason : String} (missing : m.files names.cert = .error reason) :
      Unusable m names (TlsMaterial.unreadable names.cert reason)
  | key {certPem : List UInt8} {reason : String} (cert : m.files names.cert = .ok certPem)
      (missing : m.files names.key = .error reason) :
      Unusable m names (TlsMaterial.unreadable names.key reason)
  | malformedCert {certPem keyPem : List UInt8} {reason : String}
      (reads : m.Reads names certPem keyPem)
      (malformed : m.tls.certificates certPem = .error reason) :
      Unusable m names (TlsMaterial.refuse ("malformed certificate PEM: " ++ reason))
  | uncertified {certPem keyPem : List UInt8} (reads : m.Reads names certPem keyPem)
      (empty : m.tls.certificates certPem = .ok []) :
      Unusable m names (TlsMaterial.refuse "no certificates found in PEM")
  | malformedKey {certPem keyPem : List UInt8} {chain : List (List UInt8)} {reason : String}
      (reads : m.Reads names certPem keyPem) (certs : m.tls.certificates certPem = .ok chain)
      (certified : chain ≠ []) (malformed : m.tls.privateKey? keyPem = .error reason) :
      Unusable m names (TlsMaterial.refuse ("malformed key PEM: " ++ reason))
  | keyless {certPem keyPem : List UInt8} {chain : List (List UInt8)}
      (reads : m.Reads names certPem keyPem) (certs : m.tls.certificates certPem = .ok chain)
      (certified : chain ≠ []) (empty : m.tls.privateKey? keyPem = .ok none) :
      Unusable m names (TlsMaterial.refuse "no private key found in PEM")
  | versions {material : TlsMaterial} {reason : String} (holds : m.Holds names material)
      (unsupported : m.tls.versions = .error reason) :
      Unusable m names (TlsMaterial.refuse ("unsupported TLS versions: " ++ reason))
  | rejected {material : TlsMaterial} {reason : String} (holds : m.Holds names material)
      (versions : m.tls.versions = .ok ())
      (rejected : m.tls.accept material.chain material.key = .error reason) :
      Unusable m names (TlsMaterial.refuse ("invalid certificate or key: " ++ reason))

theorem load_of_reads {certPem keyPem : List UInt8} (reads : m.Reads names certPem keyPem) :
    TlsMaterial.load m.tls m.files names = TlsMaterial.ofPem m.tls certPem keyPem := by
  unfold TlsMaterial.load TlsMaterial.readFile
  rw [reads.cert, reads.key]
  rfl

theorem certificates_of_ne_nil {certPem : List UInt8} {chain : List (List UInt8)}
    (certs : m.tls.certificates certPem = .ok chain) (certified : chain ≠ []) :
    TlsMaterial.certificates m.tls certPem = .ok chain := by
  unfold TlsMaterial.certificates
  rw [certs]
  exact if_neg (mt List.isEmpty_iff.mp certified)

/-- With certificates and a key, the library has the last word. -/
theorem load_of_holds (holds : m.Holds names material) :
    TlsMaterial.load m.tls m.files names =
      (do
        TlsMaterial.blame "unsupported TLS versions" m.tls.versions
        TlsMaterial.blame "invalid certificate or key"
          (m.tls.accept material.chain material.key)
        .ok material) := by
  obtain ⟨⟨certPem, keyPem, reads, certs, key⟩, certified⟩ := holds
  have found : TlsMaterial.privateKey m.tls keyPem = .ok material.key := by
    unfold TlsMaterial.privateKey
    rw [key]
    rfl
  rw [load_of_reads reads, TlsMaterial.ofPem, certificates_of_ne_nil certs certified, found]
  rfl

theorem load_of_loads (loads : m.Loads names material) :
    TlsMaterial.load m.tls m.files names = .ok material := by
  rw [load_of_holds loads.holds, loads.versions, loads.accepted]
  rfl

theorem load_of_unusable (unusable : m.Unusable names f) :
    TlsMaterial.load m.tls m.files names = .error f := by
  cases unusable with
  | cert missing =>
      unfold TlsMaterial.load TlsMaterial.readFile
      rw [missing]
      rfl
  | key cert missing =>
      unfold TlsMaterial.load TlsMaterial.readFile
      rw [cert, missing]
      rfl
  | malformedCert reads malformed =>
      rw [load_of_reads reads, TlsMaterial.ofPem, TlsMaterial.certificates, malformed]
      rfl
  | uncertified reads empty =>
      rw [load_of_reads reads, TlsMaterial.ofPem, TlsMaterial.certificates, empty]
      rfl
  | malformedKey reads certs certified malformed =>
      rw [load_of_reads reads, TlsMaterial.ofPem, certificates_of_ne_nil certs certified,
        TlsMaterial.privateKey, malformed]
      rfl
  | keyless reads certs certified empty =>
      rw [load_of_reads reads, TlsMaterial.ofPem, certificates_of_ne_nil certs certified,
        TlsMaterial.privateKey, empty]
      rfl
  | versions holds unsupported =>
      rw [load_of_holds holds, unsupported]
      rfl
  | rejected holds versions rejected =>
      rw [load_of_holds holds, versions, rejected]
      rfl

/-- What the files hold is of use or there is a reason why it is not. -/
theorem loads_or_unusable_of_holds (holds : m.Holds names material) :
    m.Loads names material ∨ ∃ f, m.Unusable names f := by
  cases versions : m.tls.versions with
  | error reason => exact .inr ⟨_, .versions holds versions⟩
  | ok _ =>
      cases accepted : m.tls.accept material.chain material.key with
      | error reason => exact .inr ⟨_, .rejected holds versions accepted⟩
      | ok _ => exact .inl ⟨holds, versions, accepted⟩

theorem loads_or_unusable_of_reads {certPem keyPem : List UInt8}
    (reads : m.Reads names certPem keyPem) :
    (∃ material, m.Loads names material) ∨ ∃ f, m.Unusable names f := by
  cases certs : m.tls.certificates certPem with
  | error reason => exact .inr ⟨_, .malformedCert reads certs⟩
  | ok chain =>
      by_cases certified : chain = []
      · exact .inr ⟨_, .uncertified reads (certified ▸ certs)⟩
      · cases key : m.tls.privateKey? keyPem with
        | error reason => exact .inr ⟨_, .malformedKey reads certs certified key⟩
        | ok found =>
            cases found with
            | none => exact .inr ⟨_, .keyless reads certs certified key⟩
            | some key' =>
                have holds : m.Holds names ⟨chain, key'⟩ :=
                  ⟨⟨certPem, keyPem, reads, certs, key⟩, certified⟩
                exact (loads_or_unusable_of_holds holds).imp_left fun loads => ⟨_, loads⟩

/-- Files are of use or of none. -/
theorem loads_or_unusable (m : Machine) (names : TlsFiles) :
    (∃ material, m.Loads names material) ∨ ∃ f, m.Unusable names f := by
  cases cert : m.files names.cert with
  | error reason => exact .inr ⟨_, .cert cert⟩
  | ok certPem =>
      cases key : m.files names.key with
      | error reason => exact .inr ⟨_, .key cert key⟩
      | ok keyPem => exact loads_or_unusable_of_reads ⟨cert, key⟩

/-- There is material for a start with these files, if it has files. -/
def Ready (m : Machine) : Option TlsFiles → Prop
  | none => True
  | some names => ∃ material, m.Loads names material

end Machine

namespace Server

/-! ## Listeners -/

/-- A start gets this listener. -/
structure Listens (c : ServerConfig) (m : Machine) (files : Option TlsFiles)
    (listener : SocketAddress) : Prop where
  ready : m.Ready files
  bound : ∃ addr, c.socketAddr? = some addr ∧ m.bind addr = .ok listener

/-- Why a start does not come to have a listener. -/
inductive Unprepared (c : ServerConfig) (m : Machine) : Option TlsFiles → Failure → Prop
  | files {names : TlsFiles} {f : Failure} (unusable : m.Unusable names f) :
      Unprepared c m (some names) f
  | address {files : Option TlsFiles} (ready : m.Ready files)
      (malformed : c.socketAddr? = none) : Unprepared c m files (malformedAddress c.bindAddr)
  | listener {files : Option TlsFiles} {addr : SocketAddress} {reason : String}
      (ready : m.Ready files) (parsed : c.socketAddr? = some addr)
      (refused : m.bind addr = .error reason) : Unprepared c m files (refusedListener addr reason)

variable {s : Server} {m : Machine} {files : Option TlsFiles} {listener : SocketAddress}
  {f : Failure}

theorem prepareWith_of_ready (ready : m.Ready files) : s.prepareWith m files = s.listen m := by
  cases files with
  | none => rfl
  | some names =>
      obtain ⟨material, loads⟩ := ready
      rw [prepareWith, Machine.load_of_loads loads]
      rfl

theorem prepareWith_of_listens (listens : Listens s.config m files listener) :
    s.prepareWith m files = .ok listener := by
  obtain ⟨ready, addr, parsed, bound⟩ := listens
  rw [prepareWith_of_ready ready, listen, parsed]
  dsimp only
  rw [bound]
  rfl

theorem prepareWith_of_unprepared (unprepared : Unprepared s.config m files f) :
    s.prepareWith m files = .error f := by
  cases unprepared with
  | files unusable =>
      rw [prepareWith, Machine.load_of_unusable unusable]
      rfl
  | address ready malformed => rw [prepareWith_of_ready ready, listen, malformed]
  | listener ready parsed refused =>
      rw [prepareWith_of_ready ready, listen, parsed]
      dsimp only
      rw [refused]
      rfl

theorem Listens.unique {c : ServerConfig} {other : SocketAddress}
    (listens : Listens c m files listener) (listens' : Listens c m files other) :
    listener = other := by
  have prepared := prepareWith_of_listens (s := { config := c }) listens
  exact Except.ok.inj (prepared.symm.trans (prepareWith_of_listens listens'))

theorem Unprepared.not_listens {c : ServerConfig} (unprepared : Unprepared c m files f) :
    ¬ Listens c m files listener := by
  intro listens
  have prepared := prepareWith_of_listens (s := { config := c }) listens
  cases prepared.symm.trans (prepareWith_of_unprepared unprepared)

theorem listens_or_unprepared_of_ready (c : ServerConfig) (ready : m.Ready files) :
    (∃ listener, Listens c m files listener) ∨ ∃ f, Unprepared c m files f := by
  cases parsed : c.socketAddr? with
  | none => exact .inr ⟨_, .address ready parsed⟩
  | some addr =>
      cases bound : m.bind addr with
      | ok listener => exact .inl ⟨listener, ready, addr, parsed, bound⟩
      | error reason => exact .inr ⟨_, .listener ready parsed bound⟩

/-- A start gets a listener or does not come to have one. -/
theorem listens_or_unprepared (c : ServerConfig) (m : Machine) (files : Option TlsFiles) :
    (∃ listener, Listens c m files listener) ∨ ∃ f, Unprepared c m files f := by
  cases files with
  | none => exact listens_or_unprepared_of_ready c trivial
  | some names =>
      obtain ⟨material, loads⟩ | ⟨f, unusable⟩ := m.loads_or_unusable names
      · exact listens_or_unprepared_of_ready c ⟨material, loads⟩
      · exact .inr ⟨f, .files unusable⟩

end Server

end HttpService
