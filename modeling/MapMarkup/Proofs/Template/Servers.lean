import MapMarkup.Proofs.Template.Decoded

/-!
# URLs and nodes on servers

A sharded layer is fetched from the hosts of a pattern instead of the host of the service. In a URL
the scheme ends at the first `://` and the host at the first slash behind it, so the pattern takes
the place of the host and of nothing else (`Sharding.baseUrl_authority`), and of two patterns that
are put there the last one stands (`Sharding.baseUrl_baseUrl`). The nodes of a sharded source are
the shards and the nodes of a source without servers that has the pattern in its base
(`ImageSource.nodes_of_sharding`). All its templates hold the pattern, and they take a shard if the
pattern does (`ImageSource.hasPlaceholder_template_iff`).
-/

namespace MapMarkup

namespace Sharding

/-! ### Hosts -/

def schemeEnd : List Char := [':', '/', '/']

private theorem splitScheme_append {scheme : List Char} (h : ¬ schemeEnd <:+: scheme)
    (rest : List Char) :
    splitScheme (scheme ++ schemeEnd ++ rest) = some (scheme, rest) := by
  induction scheme with
  | nil => rfl
  | cons c scheme ih =>
    rw [List.infix_cons_iff, not_or] at h
    have hlater : ∀ after, c = ':' → scheme ++ schemeEnd ++ rest = '/' :: '/' :: after → False := by
      rintro after rfl hend
      match scheme with
      | [] | [_] => simp [schemeEnd] at hend
      | a :: b :: tail =>
        simp only [List.cons_append, List.cons.injEq] at hend
        obtain ⟨rfl, rfl, _⟩ := hend
        exact h.1 ⟨tail, rfl⟩
    rw [List.cons_append, List.cons_append, splitScheme, ih h.2]
    · rfl
    · exact hlater

private theorem not_infix_of_splitScheme {cs scheme rest : List Char}
    (h : splitScheme cs = some (scheme, rest)) : ¬ schemeEnd <:+: scheme := by
  fun_induction splitScheme cs generalizing scheme with
  | case1 => cases h
  | case2 tail =>
    cases h
    decide
  | case3 c cs hlater ih =>
    obtain ⟨⟨scheme', rest'⟩, hsplit, heq⟩ := Option.map_eq_some_iff.mp h
    cases heq
    rw [List.infix_cons_iff, not_or]
    refine ⟨?_, ih hsplit⟩
    rintro ⟨tail, htail⟩
    obtain ⟨rfl, rfl⟩ := List.cons.inj htail
    exact hlater _ rfl (ImageSource.eq_append_of_splitScheme hsplit)

theorem baseUrl_authority {scheme authority : String} (path pattern : String)
    (hscheme : ¬ schemeEnd <:+: scheme.toList) (hauthority : '/' ∉ authority.toList) :
    baseUrl (scheme ++ "://" ++ authority ++ "/" ++ path) pattern
      = scheme ++ "://" ++ pattern ++ "/" ++ path := by
  have hsplit : splitScheme (scheme ++ "://" ++ authority ++ "/" ++ path).toList
      = some (scheme.toList, authority.toList ++ '/' :: path.toList) := by
    have htext : (scheme ++ "://" ++ authority ++ "/" ++ path).toList
        = scheme.toList ++ schemeEnd ++ (authority.toList ++ '/' :: path.toList) := by
      simp [schemeEnd]
    rw [htext, splitScheme_append hscheme]
  have hpath : pathAfterHost (String.ofList (authority.toList ++ '/' :: path.toList))
      = "/" ++ path := by
    unfold pathAfterHost
    rw [String.toList_ofList, Text.splitFirst_append hauthority]
    exact String.toList_injective (by simp)
  unfold baseUrl
  rw [hsplit]
  dsimp only
  rw [hpath, String.ofList_toList, ← String.append_assoc]

/-- A URL has a scheme and a path that stay when a pattern takes the place of its host. -/
theorem exists_baseUrl (base : String) : ∃ scheme path : String, ¬ schemeEnd <:+: scheme.toList
    ∧ ∀ pattern, baseUrl base pattern = scheme ++ "://" ++ pattern ++ "/" ++ path := by
  have hpath (rest : String) : ∃ path, pathAfterHost rest = "/" ++ path := by
    unfold pathAfterHost
    split
    · exact ⟨_, String.ofList_cons⟩
    · exact ⟨"", rfl⟩
  unfold baseUrl
  cases hsplit : splitScheme base.toList with
  | none =>
    obtain ⟨path, hpath⟩ := hpath base
    refine ⟨"http", path, by decide, fun pattern => ?_⟩
    dsimp only
    rw [hpath, ← String.append_assoc]
  | some parts =>
    obtain ⟨scheme, rest⟩ := parts
    obtain ⟨path, hpath⟩ := hpath (String.ofList rest)
    refine ⟨String.ofList scheme, path, ?_, fun pattern => ?_⟩
    · rw [String.toList_ofList]
      exact not_infix_of_splitScheme hsplit
    · dsimp only
      rw [hpath, ← String.append_assoc]

/-- The last pattern stands. -/
theorem baseUrl_baseUrl (base : String) {pattern : String} (pattern' : String)
    (h : '/' ∉ pattern.toList) :
    baseUrl (baseUrl base pattern) pattern' = baseUrl base pattern' := by
  obtain ⟨scheme, path, hscheme, hbase⟩ := exists_baseUrl base
  rw [hbase, hbase, baseUrl_authority path pattern' hscheme h]

end Sharding

/-! ### Sources -/

namespace ImageSource

def unsharded (s : ImageSource) (base : String) : ImageSource :=
  { s with base, sharding := none }

theorem nodes_of_sharding {s : ImageSource} {sharding : Sharding}
    (h : s.sharding = some sharding) :
    s.nodes = shardNodes sharding
      ++ (s.unsharded (Sharding.baseUrl s.base sharding.pattern)).nodes := by
  obtain ⟨base, tcrs, layers, queryLayers, styles, cacheLayer, fetching, zoom, format, language,
    _⟩ := s
  cases h
  rfl

theorem nodes_of_unsharded {s : ImageSource} (h : s.sharding = none) :
    s.nodes = (s.unsharded s.base).nodes := by
  rw [unsharded, ← h]

variable {e : Extent} {s : ImageSource}

theorem exists_shardList_iff (h : e.nodes = s.nodes) :
    (∃ d ∈ e.datalists, d.id = shardList) ↔ ∃ sharding, s.sharding = some sharding := by
  have hids := datalists_eq h
  rw [← List.mem_map, hids, ← Option.isSome_iff_exists]
  cases s.sharding <;> simp

theorem exists_shardInput_iff (h : e.nodes = s.nodes) :
    (∃ input ∈ e.inputs, input.name = shardInput) ↔ ∃ sharding, s.sharding = some sharding := by
  have hnames : ∀ sharded fetching queried,
      shardInput ∈ (signatures sharded fetching queried).map Prod.fst ↔ sharded = true := by
    decide
  have hsignatures := congrArg (List.map Prod.fst) (signatures_eq h)
  rw [List.map_map] at hsignatures
  have hfst : Prod.fst ∘ Input.signature = Input.name := rfl
  rw [hfst] at hsignatures
  rw [← List.mem_map, hsignatures, hnames, Option.isSome_iff_exists]

theorem type_of_shardInput (h : e.nodes = s.nodes) {input : Input} (hinput : input ∈ e.inputs)
    (hname : input.name = shardInput) : input.type = .hidden := by
  have htype : ∀ sharded fetching queried, ∀ sig ∈ signatures sharded fetching queried,
      sig.1 = shardInput → sig.2.1 = .hidden := by
    decide
  exact htype _ _ _ _ (mem_signatures h hinput) hname

theorem links_ne_nil (h : e.nodes = s.nodes) : e.links ≠ [] := by
  rw [links_eq h]
  exact List.cons_ne_nil _ _

/-! ### Templates -/

variable {sharding : Sharding} {t : Template}

theorem exists_template (h : e.nodes = s.nodes) {l : Link} (hl : l ∈ e.links) :
    ∃ t ∈ s.templates, l.tref = some t.text := by
  have htref : l.tref ∈ e.links.map Link.tref := List.mem_map_of_mem hl
  rw [trefs_eq h] at htref
  obtain ⟨t, ht, htext⟩ := List.mem_map.mp htref
  exact ⟨t, ht, htext.symm⟩

theorem templates_endpoint (ht : t ∈ s.templates) : ∃ path : String,
    t.endpoint = s.templateBase ++ path ∧ Braceless path.toList := by
  rcases List.mem_cons.mp ht with rfl | ht
  · exact s.imageTemplate_endpoint
  · obtain ⟨q, _, rfl⟩ := List.mem_map.mp ht
    exact s.queryTemplate_endpoint q

theorem templateBase_of_sharding (h : s.sharding = some sharding) :
    s.templateBase = Sharding.baseUrl s.base sharding.pattern := by
  rw [templateBase, h]

theorem isInfix_pattern (h : s.sharding = some sharding) (ht : t ∈ s.templates) :
    sharding.pattern.toList <:+: t.text.toList := by
  obtain ⟨path, hendpoint, _⟩ := templates_endpoint ht
  obtain ⟨front, back, hurl, _⟩ := baseUrl_eq_append s.base sharding.pattern
  rw [Template.toList_text, hendpoint, templateBase_of_sharding h, String.toList_append, hurl]
  exact ⟨front, _, by simp only [List.append_assoc]; rfl⟩

private theorem params_imageTemplate (s : ImageSource) (base : String) :
    (s.unsharded base).imageTemplate.params = s.imageTemplate.params := by
  obtain ⟨_, tcrs, layers, queryLayers, styles, cacheLayer, fetching, zoom, format, language,
    _⟩ := s
  cases fetching <;> rfl

private theorem params_queryTemplate (s : ImageSource) (base q : String) :
    ((s.unsharded base).queryTemplate q).params = (s.queryTemplate q).params := by
  obtain ⟨_, tcrs, layers, queryLayers, styles, cacheLayer, fetching, zoom, format, language,
    _⟩ := s
  cases fetching <;> rfl

/-- The names of the inputs that templates take beside the shard. -/
def takenNames (fetching : Fetching) : List String :=
  "i" :: "j" :: imageNames fetching

private theorem woven_templates {base : String} (h : (s.unsharded base).IsPlain)
    (ht : t ∈ s.templates) :
    ∀ p ∈ t.params, IsWovenParam (takenNames s.fetching) p := by
  have hnames : imageNames s.fetching ⊆ takenNames s.fetching :=
    List.Subset.trans (List.subset_cons_self _ _) (List.subset_cons_self _ _)
  rcases List.mem_cons.mp ht with rfl | ht
  · rw [← params_imageTemplate s base]
    exact woven_imageTemplate h hnames
  · obtain ⟨q, hq, rfl⟩ := List.mem_map.mp ht
    rw [← params_queryTemplate s base q]
    exact woven_queryTemplate h hnames List.mem_cons_self
      (List.mem_cons_of_mem _ List.mem_cons_self) (h.queryLayers q (Option.mem_toList.mp hq))

/-- A template takes a shard if the pattern of the servers does, and only then if no other text
brings braces. -/
theorem hasPlaceholder_template_iff (h : s.sharding = some sharding)
    (hplain : (s.unsharded s.base).IsPlain) (ht : t ∈ s.templates) :
    HasPlaceholder t.text.toList shardInput
      ↔ HasPlaceholder sharding.pattern.toList shardInput := by
  constructor
  · intro hshard
    obtain ⟨path, hendpoint, hpath⟩ := templates_endpoint ht
    rw [Template.toList_text, hendpoint, templateBase_of_sharding h, String.toList_append,
      List.append_assoc] at hshard
    have hwoven := (Woven.of_braceless hpath).append
      (Template.woven_parameters (woven_templates hplain ht))
    have hother : ∀ fetching, shardInput ∉ takenNames fetching := by decide
    exact (placeholder_of_baseUrl hplain.base hwoven hshard).resolve_right (hother s.fetching)
  · exact fun hpattern => hpattern.mono (isInfix_pattern h ht)

end ImageSource

end MapMarkup
