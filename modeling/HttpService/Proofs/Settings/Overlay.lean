import HttpService.Proofs.Settings.Values

/-!
# Variables over settings

What comes of variables depends on which they are and not on the order in which they are given:
each value that is named is read from its variable, and the others are those of the base.
-/

namespace HttpService

namespace Text

theorem stripStart?_eq_some {start s rest : String} :
    stripStart? start s = some rest ↔ s = start ++ rest := by
  unfold stripStart?
  constructor
  · intro stripped
    split at stripped
    · next begins =>
        obtain ⟨tail, same⟩ := List.isPrefixOf_iff_prefix.mp begins
        rw [← same, List.drop_left, Option.some.injEq] at stripped
        rw [← stripped]
        exact String.toList_injective (by rw [String.toList_append, String.toList_ofList, same])
    · cases stripped
  · rintro rfl
    simp [List.isPrefixOf_iff_prefix]

theorem startsWith_append (start rest : String) : startsWith (start ++ rest) start = true := by
  simp [startsWith, List.isPrefixOf_iff_prefix]

end Text

namespace Setting

theorem ofPath?_path (setting : Setting) : ofPath? setting.path = some setting := by
  cases setting <;> decide

theorem ofPath?_eq_some {path : String} {setting : Setting} :
    ofPath? path = some setting ↔ path = setting.path := by
  constructor
  · intro found
    exact (beq_iff_eq.mp (List.find?_eq_some_iff_append.mp found).1).symm
  · rintro rfl
    exact ofPath?_path setting

theorem path_injective {setting other : Setting} (same : setting.path = other.path) :
    setting = other :=
  Option.some.inj ((ofPath?_path setting).symm.trans (same ▸ ofPath?_path other))

/-- Under a marker too, no two names are alike. -/
theorem name_injective {marker : String} {setting other : Setting}
    (same : marker ++ setting.path = marker ++ other.path) : setting = other :=
  path_injective (String.append_right_inj marker |>.mp same)

end Setting

namespace Overlay

/-! ## The order of variables -/

/-- The order in which variables are applied: by name, and by text under one name. -/
def Before (a b : String × String) : Prop :=
  a.1 < b.1 ∨ a.1 = b.1 ∧ a.2 ≤ b.2

theorem before_iff (a b : String × String) :
    (decide (a.1 < b.1) || (a.1 == b.1 && !decide (b.2 < a.2))) = true ↔ Before a b := by
  simp only [Before, Bool.or_eq_true, Bool.and_eq_true, decide_eq_true_eq, beq_iff_eq,
    Bool.not_eq_true', decide_eq_false_iff_not, String.not_lt]

theorem Before.trans {a b c : String × String} (ab : Before a b) (bc : Before b c) :
    Before a c := by
  rcases ab with lt | ⟨same, le⟩ <;> rcases bc with lt' | ⟨same', le'⟩
  · exact .inl (String.lt_trans lt lt')
  · exact .inl (same' ▸ lt)
  · exact .inl (same ▸ lt')
  · exact .inr ⟨same.trans same', String.le_trans le le'⟩

theorem Before.total (a b : String × String) : Before a b ∨ Before b a := by
  by_cases lt : a.1 < b.1
  · exact .inl (.inl lt)
  by_cases gt : b.1 < a.1
  · exact .inr (.inl gt)
  have same : a.1 = b.1 := String.le_antisymm (String.not_lt.mp gt) (String.not_lt.mp lt)
  rcases String.le_total a.2 b.2 with le | le
  · exact .inl (.inr ⟨same, le⟩)
  · exact .inr (.inr ⟨same.symm, le⟩)

theorem Before.antisymm {a b : String × String} (ab : Before a b) (ba : Before b a) : a = b := by
  rcases ab with lt | ⟨same, le⟩ <;> rcases ba with lt' | ⟨same', le'⟩
  · exact absurd lt' (String.lt_asymm lt)
  · exact absurd (same' ▸ lt) (String.lt_irrefl _)
  · exact absurd (same ▸ lt') (String.lt_irrefl _)
  · exact Prod.ext same (String.le_antisymm le le')

theorem matching_perm (marker : String) (given : List (String × String)) :
    (matching marker given).Perm (given.filter fun v => Text.startsWith v.1 marker) :=
  List.mergeSort_perm _ _

theorem pairwise_matching (marker : String) (given : List (String × String)) :
    (matching marker given).Pairwise Before := by
  refine (List.pairwise_mergeSort ?_ ?_ _).imp fun {a b} => (before_iff a b).mp
  · intro a b c ab bc
    exact (before_iff a c).mpr (((before_iff a b).mp ab).trans ((before_iff b c).mp bc))
  · intro a b
    rw [Bool.or_eq_true, before_iff, before_iff]
    exact Before.total a b

/-- Which variables are given says in which order they are applied. -/
theorem matching_congr {marker : String} {given other : List (String × String)}
    (perm : (given.filter fun v => Text.startsWith v.1 marker).Perm
      (other.filter fun v => Text.startsWith v.1 marker)) :
    matching marker given = matching marker other :=
  List.Perm.eq_of_pairwise (fun _ _ _ _ => Before.antisymm) (pairwise_matching marker given)
    (pairwise_matching marker other)
    ((matching_perm marker given).trans (perm.trans (matching_perm marker other).symm))

theorem mem_matching {marker : String} {given : List (String × String)} {v : String × String} :
    v ∈ matching marker given ↔ v ∈ given ∧ Text.startsWith v.1 marker = true := by
  rw [(matching_perm marker given).mem_iff, List.mem_filter]

/-! ## One variable -/

variable {marker : String} {given vars : List (String × String)} {base s t : Settings}

/-- A variable names a value and its text says one. -/
def Sound (marker : String) (v : String × String) : Prop :=
  ∃ (setting : Setting) (value : setting.Value),
    v.1 = marker ++ setting.path ∧ setting.Means v.2 value

theorem apply_named (marker : String) (s : Settings) (setting : Setting) (text : String) :
    apply marker s (marker ++ setting.path, text) =
      ((setting.parse text).map (Setting.put s setting)).mapError
        (.unreadableVariable (marker ++ setting.path)) := by
  have named : (Text.stripStart? marker (marker ++ setting.path)).bind Setting.ofPath? =
      some setting := by
    rw [Text.stripStart?_eq_some.mpr rfl, Option.bind_some, Setting.ofPath?_path]
  simp only [apply, named, Setting.assign_eq]

theorem apply_of_means {setting : Setting} {text : String} {value : setting.Value}
    (means : setting.Means text value) :
    apply marker s (marker ++ setting.path, text) = .ok (Setting.put s setting value) := by
  rw [apply_named, Setting.parse_eq_ok_iff.mpr means]
  rfl

theorem apply_of_not_sound {v : String × String} (bad : ¬ Sound marker v) (s : Settings) :
    ∃ reason, apply marker s v = .error (.unreadableVariable v.1 reason) := by
  obtain ⟨name, text⟩ := v
  cases stripped : (Text.stripStart? marker name).bind Setting.ofPath? with
  | none => exact ⟨"unknown configuration key", by simp only [apply, stripped]⟩
  | some setting =>
      obtain ⟨path, begins, found⟩ := Option.bind_eq_some_iff.mp stripped
      have named : name = marker ++ setting.path := by
        rw [Text.stripStart?_eq_some.mp begins, Setting.ofPath?_eq_some.mp found]
      subst named
      cases parsed : setting.parse text with
      | ok value => exact absurd ⟨setting, value, rfl, Setting.parse_eq_ok_iff.mp parsed⟩ bad
      | error reason =>
          refine ⟨reason, ?_⟩
          rw [apply_named, parsed]
          rfl

/-! ## One after the other -/

/-- Settings hold what variables say, and what a base holds where they say nothing. A base without
the section of the server's files counts as one with empty names there. -/
structure Overlaid (marker : String) (base : Settings) (given : List (String × String))
    (s : Settings) : Prop where
  named : ∀ (setting : Setting) (text : String), (marker ++ setting.path, text) ∈ given →
    setting.Means text (Setting.held s setting)
  others : ∀ setting : Setting, (∀ text, (marker ++ setting.path, text) ∉ given) →
    Setting.held s setting = Setting.held base setting
  files : s.server.tls.isSome = true ↔ base.server.tls.isSome = true ∨
    ∃ (setting : Setting) (text : String), setting.isFile = true ∧
      (marker ++ setting.path, text) ∈ given

namespace Overlaid

/-- Only variables that name a value matter. -/
theorem congr {other : List (String × String)} (overlaid : Overlaid marker base given s)
    (same : ∀ (setting : Setting) (text : String),
      (marker ++ setting.path, text) ∈ given ↔ (marker ++ setting.path, text) ∈ other) :
    Overlaid marker base other s where
  named setting text mem := overlaid.named setting text ((same setting text).mpr mem)
  others setting absent :=
    overlaid.others setting fun text mem => absent text ((same setting text).mp mem)
  files := by
    rw [overlaid.files]
    simp only [same]

/-- The variables leave nothing open. -/
theorem unique (left : Overlaid marker base given s) (right : Overlaid marker base given t) :
    s = t := by
  refine Setting.ext_of_held (fun setting => ?_)
    (Bool.eq_iff_iff.mpr (left.files.trans right.files.symm))
  by_cases named : ∃ text, (marker ++ setting.path, text) ∈ given
  · obtain ⟨text, mem⟩ := named
    exact (left.named setting text mem).unique (right.named setting text mem)
  · have absent : ∀ text, (marker ++ setting.path, text) ∉ given := not_exists.mp named
    rw [left.others setting absent, right.others setting absent]

theorem nil : Overlaid marker base [] base where
  named _ _ mem := absurd mem List.not_mem_nil
  others _ _ := rfl
  files := by simp

/-- The first variable holds on, since no later one has its name. -/
theorem cons (setting : Setting) (value : setting.Value) {text : String}
    (means : setting.Means text value) (fresh : marker ++ setting.path ∉ vars.map Prod.fst)
    (rest : Overlaid marker (Setting.put base setting value) vars s) :
    Overlaid marker base ((marker ++ setting.path, text) :: vars) s where
  named other text' mem := by
    rcases List.mem_cons.mp mem with first | later
    · obtain ⟨name, rfl⟩ := Prod.mk.inj first
      obtain rfl := Setting.name_injective name
      have absent : ∀ text, (marker ++ other.path, text) ∉ vars :=
        fun text mem => fresh (List.mem_map_of_mem mem)
      rw [rest.others other absent, Setting.held_put]
      exact means
    · exact rest.named other text' later
  others other absent := by
    have ne : other ≠ setting := by
      rintro rfl
      exact absent text List.mem_cons_self
    rw [rest.others other fun text mem => absent text (List.mem_cons_of_mem _ mem),
      Setting.held_put_of_ne base value ne]
  files := by
    rw [rest.files, Setting.isSome_tls_put, Bool.or_eq_true, or_assoc]
    refine or_congr_right ⟨?_, ?_⟩
    · rintro (file | ⟨other, text', file, mem⟩)
      · exact ⟨setting, text, file, List.mem_cons_self⟩
      · exact ⟨other, text', file, List.mem_cons_of_mem _ mem⟩
    · rintro ⟨other, text', file, mem⟩
      rcases List.mem_cons.mp mem with first | later
      · obtain rfl := Setting.name_injective (Prod.mk.inj first).1
        exact .inl file
      · exact .inr ⟨other, text', file, later⟩

end Overlaid

/-- Variables under different names are laid over the settings one by one. -/
theorem overlaid_of_merged (distinct : (vars.map Prod.fst).Nodup)
    (merged : vars.foldlM (apply marker) base = .ok s) : Overlaid marker base vars s := by
  induction vars generalizing base with
  | nil =>
      obtain rfl := Except.ok.inj merged
      exact .nil
  | cons v vars ih =>
      obtain ⟨fresh, apart⟩ := List.nodup_cons.mp distinct
      rw [List.foldlM_cons] at merged
      by_cases sound : Sound marker v
      · obtain ⟨name, text⟩ := v
        obtain ⟨setting, value, rfl, means⟩ := sound
        rw [apply_of_means means] at merged
        exact .cons setting value means fresh (ih apart merged)
      · obtain ⟨reason, fails⟩ := apply_of_not_sound sound base
        rw [fails] at merged
        cases merged

theorem exists_merged (sound : ∀ v ∈ vars, Sound marker v) (base : Settings) :
    ∃ s, vars.foldlM (apply marker) base = .ok s := by
  induction vars generalizing base with
  | nil => exact ⟨base, rfl⟩
  | cons v vars ih =>
      obtain ⟨name, text⟩ := v
      obtain ⟨setting, value, rfl, means⟩ := sound (name, text) List.mem_cons_self
      rw [List.foldlM_cons, apply_of_means means]
      exact ih (fun later mem => sound later (List.mem_cons_of_mem _ mem))
        (Setting.put base setting value)

/-- One variable that is not sound stops the rest, and the first of them is reported. -/
theorem merged_of_not_sound {v : String × String} (mem : v ∈ vars) (bad : ¬ Sound marker v)
    (base : Settings) :
    ∃ w ∈ vars, ¬ Sound marker w ∧
      ∃ reason, vars.foldlM (apply marker) base = .error (.unreadableVariable w.1 reason) := by
  induction vars generalizing base with
  | nil => cases mem
  | cons first vars ih =>
      rw [List.foldlM_cons]
      by_cases sound : Sound marker first
      · have later : v ∈ vars := by
          rcases List.mem_cons.mp mem with rfl | later
          · exact absurd sound bad
          · exact later
        obtain ⟨name, text⟩ := first
        obtain ⟨setting, value, rfl, means⟩ := sound
        rw [apply_of_means means]
        obtain ⟨w, among, worse, reported⟩ := ih later (Setting.put base setting value)
        exact ⟨w, List.mem_cons_of_mem _ among, worse, reported⟩
      · obtain ⟨reason, fails⟩ := apply_of_not_sound sound base
        refine ⟨first, List.mem_cons_self, sound, reason, ?_⟩
        rw [fails]
        rfl

/-! ## Loading -/

theorem load_eq_ok {o : Overlay} {filters : FilterReader} :
    o.load filters = .ok s ↔ o.merged = .ok s ∧ s.validate filters = .ok () := by
  unfold load
  cases o.merged with
  | error fault => simp [bind, Except.bind]
  | ok t =>
      cases valid : t.validate filters with
      | error fault =>
          simp only [bind, Except.bind, valid, reduceCtorEq, Except.ok.injEq, false_iff]
          rintro ⟨rfl, valid'⟩
          cases valid.symm.trans valid'
      | ok _ =>
          simp only [bind, Except.bind, valid, Except.ok.injEq]
          exact ⟨fun same => ⟨same, same ▸ valid⟩, fun ⟨same, _⟩ => same⟩

section Started

variable {o : Overlay} {start : String} {filters : FilterReader} (counts : o.start = some start)

include counts

theorem merged_eq :
    o.merged = (matching (start ++ "__") o.given).foldlM (apply (start ++ "__")) o.base := by
  rw [merged, counts]

theorem load_congr {other : List (String × String)}
    (same : matching (start ++ "__") other = matching (start ++ "__") o.given) :
    ({ o with given := other } : Overlay).load filters = o.load filters := by
  have merged : ({ o with given := other } : Overlay).merged = o.merged := by
    rw [merged_eq counts, merged_eq (o := { o with given := other }) counts, same]
  rw [load, load, merged]

/-- A variable under the marker that is not sound is fatal. -/
theorem load_of_not_sound {v : String × String} (mem : v ∈ o.given)
    (under : Text.startsWith v.1 (start ++ "__") = true) (bad : ¬ Sound (start ++ "__") v) :
    ∃ w ∈ o.given, Text.startsWith w.1 (start ++ "__") = true ∧ ¬ Sound (start ++ "__") w ∧
      ∃ reason, o.load filters = .error (.unreadableVariable w.1 reason) := by
  obtain ⟨w, among, worse, reason, reported⟩ :=
    merged_of_not_sound (mem_matching.mpr ⟨mem, under⟩) bad o.base
  obtain ⟨mem, under⟩ := mem_matching.mp among
  refine ⟨w, mem, under, worse, reason, ?_⟩
  rw [load, merged_eq counts, reported]
  rfl

/-- With distinct names, loading gives the one settings that hold what the variables say. -/
theorem load_iff (distinct : (o.given.map Prod.fst).Nodup) :
    o.load filters = .ok s ↔
      (∀ v ∈ o.given, Text.startsWith v.1 (start ++ "__") = true → Sound (start ++ "__") v) ∧
      Overlaid (start ++ "__") o.base o.given s ∧ s.validate filters = .ok () := by
  have apart : ((matching (start ++ "__") o.given).map Prod.fst).Nodup :=
    ((matching_perm _ o.given).map Prod.fst).nodup_iff.mpr
      (distinct.sublist (List.filter_sublist.map Prod.fst))
  have same (setting : Setting) (text : String) :
      (start ++ "__" ++ setting.path, text) ∈ matching (start ++ "__") o.given ↔
        (start ++ "__" ++ setting.path, text) ∈ o.given :=
    mem_matching.trans (and_iff_left (Text.startsWith_append _ _))
  rw [load_eq_ok, merged_eq counts]
  constructor
  · rintro ⟨merged, valid⟩
    refine ⟨fun v mem under => Classical.byContradiction fun bad => ?_,
      (overlaid_of_merged apart merged).congr same, valid⟩
    obtain ⟨w, -, -, reason, reported⟩ :=
      merged_of_not_sound (mem_matching.mpr ⟨mem, under⟩) bad o.base
    cases merged.symm.trans reported
  · rintro ⟨sound, overlaid, valid⟩
    obtain ⟨t, merged⟩ := exists_merged
      (fun v mem => sound v (mem_matching.mp mem).1 (mem_matching.mp mem).2) o.base
    obtain rfl := ((overlaid_of_merged apart merged).congr same).unique overlaid
    exact ⟨merged, valid⟩

end Started

/-- Loading does not depend on the order of the variables nor on those that are not under the
marker, and gives valid settings if it gives any. A variable under the marker that names no value
or cannot be read makes it fail; otherwise, if no name is given twice, it gives the settings that
hold what the variables say over the base, provided that these are valid. -/
theorem load_law (base : Settings) (filters : FilterReader) (start : String)
    (given : List (String × String)) :
    let marker := Text.upper start ++ "__"
    let load := fun vars => (withStart { base := base, given := vars } start).load filters
    (∀ vars, vars.Perm given → load vars = load given) ∧
    load (given.filter fun v => Text.startsWith v.1 marker) = load given ∧
    (∀ s, load given = .ok s → s.validate filters = .ok ()) ∧
    ((given.map Prod.fst).Nodup → ∀ s, load given = .ok s ↔
      (∀ v ∈ given, Text.startsWith v.1 marker = true → Sound marker v) ∧
      Overlaid marker base given s ∧ s.validate filters = .ok ()) ∧
    ∀ v ∈ given, Text.startsWith v.1 marker = true → ¬ Sound marker v →
      ∃ w ∈ given, Text.startsWith w.1 marker = true ∧ ¬ Sound marker w ∧
        ∃ reason, load given = .error (.unreadableVariable w.1 reason) := by
  intro marker load
  have counts (vars : List (String × String)) :
      (withStart { base := base, given := vars } start).start = some (Text.upper start) := rfl
  refine ⟨fun vars perm => ?_, ?_, fun s loaded => (load_eq_ok.mp loaded).2,
    fun distinct s => load_iff (counts given) distinct,
    fun v mem under bad => load_of_not_sound (counts given) mem under bad⟩
  · exact load_congr (counts given) (matching_congr (perm.filter _))
  · refine load_congr (counts given) (matching_congr (.of_eq ?_))
    simp only [withStart, List.filter_filter, Bool.and_self, marker]

/-- A secret, an issuer, public paths, the files of the server and a limit, laid over the defaults
in any order. -/
theorem load_law_files_and_limit :
    let overlay := fun vars => withStart { given := vars } "dfs"
    let secret := "0123456789abcdef0123456789abcdef"
    let given := [("HOME", "/root"), ("DFS__SERVER__TLS__KEY", "k.pem"),
      ("DFS__RATE_LIMIT__LIMIT", " +7 "), ("DFS__AUTH__TOKEN_SECRET", secret),
      ("DFS__AUTH__PUBLIC_PATHS", " /health , ,/status"), ("DFS__AUTH__ISSUER", "meta"),
      ("DFS__SERVER__TLS__CERT", "c.pem")]
    let s : Settings :=
      { server := { tls := some ⟨"c.pem", "k.pem"⟩ }
        auth :=
          { tokenSecret := some secret, issuer := some "meta"
            publicPaths := ["/health", "/status"] }
        rateLimit := { limit := 7 } }
    (overlay given).load .levels = .ok s ∧ (overlay given.reverse).load .levels = .ok s ∧
    ∃ reason, (overlay [("DFS__SERVER__PORT", "80")]).load .levels =
      .error (.unreadableVariable "DFS__SERVER__PORT" reason) := by
  intro overlay secret given s
  have marker : Text.upper "dfs" ++ "__" = "DFS__" := by decide +kernel
  have law := load_law {} .levels "dfs"
  rw [marker] at law
  have foreign (setting : Setting) : "DFS__" ++ setting.path ≠ "HOME" := by
    cases setting <;> decide
  have limit : Setting.Means " +7 " .rateLimit (7 : Nat) := Setting.parse_eq_ok_iff.mp rfl
  have signing : Setting.Means secret .tokenSecret (some secret) := .kept (by decide)
  have issuing : Setting.Means "meta" .issuer (some "meta") := .kept (by decide)
  have unguarded : Setting.Means " /health , ,/status" .publicPaths ["/health", "/status"] :=
    Setting.paths_eq_iff.mp (by decide +kernel)
  have overlaid : Overlaid "DFS__" {} given s := by
    have under : Overlaid "DFS__" {} given.tail s :=
      .cons .tlsKey "k.pem" rfl (by decide)
        (.cons .rateLimit (7 : Nat) limit (by decide)
          (.cons .tokenSecret (some secret) signing (by decide)
            (.cons .publicPaths ["/health", "/status"] unguarded (by decide)
              (.cons .issuer (some "meta") issuing (by decide)
                (.cons .tlsCert "c.pem" rfl (by decide) .nil)))))
    refine under.congr fun setting text => ?_
    simp [given, foreign setting]
  have sound : ∀ v ∈ given, Text.startsWith v.1 "DFS__" = true → Sound "DFS__" v := by
    simp only [given, List.forall_mem_cons]
    exact ⟨fun begins => absurd begins (by decide), fun _ => ⟨.tlsKey, "k.pem", rfl, rfl⟩,
      fun _ => ⟨.rateLimit, (7 : Nat), rfl, limit⟩,
      fun _ => ⟨.tokenSecret, some secret, rfl, signing⟩,
      fun _ => ⟨.publicPaths, ["/health", "/status"], rfl, unguarded⟩,
      fun _ => ⟨.issuer, some "meta", rfl, issuing⟩, fun _ => ⟨.tlsCert, "c.pem", rfl, rfl⟩,
      fun v mem => absurd mem List.not_mem_nil⟩
  have files : ServerSettings.validate { tls := some ⟨"c.pem", "k.pem"⟩ } = .ok () := rfl
  have auth : s.auth.validate = .ok () := rfl
  have client : ClientSettings.validate {} = .ok () := rfl
  have logging := LoggingSettings.validate_standard FilterReader.knowsLevels_levels
  have valid : s.validate .levels = .ok () :=
    Settings.validate_eq_ok.mpr ⟨files, auth, client, rfl, logging⟩
  have loaded : (overlay given).load .levels = .ok s :=
    ((law given).2.2.2.1 (by decide) s).mpr ⟨sound, overlaid, valid⟩
  refine ⟨loaded, ((law given).1 given.reverse (List.reverse_perm given)).trans loaded, ?_⟩
  have unnamed : ¬ Sound "DFS__" ("DFS__SERVER__PORT", "80") := by
    rintro ⟨setting, -, name, -⟩
    cases setting <;> exact absurd name (by decide)
  obtain ⟨w, mem, -, -, reported⟩ := (law _).2.2.2.2 _ List.mem_cons_self (by decide) unnamed
  obtain rfl := List.mem_singleton.mp mem
  exact reported

end Overlay

end HttpService
