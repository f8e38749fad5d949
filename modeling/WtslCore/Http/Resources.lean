/-
# Which API a URL is dispatched to

Both routers walk a table of two APIs. The one of `GET` compares the third
token of the URL with the name of the API and the start of the URL with
`/api/v1/` and the name; the one of `POST` compares the start of the URL only,
and so takes `/api/v1/nodesX` for a URL of nodes (`postApi_extra`). They
recognise the same URLs, those whose first three segments are `api`, `v1` and
the name, as long as nothing but a slash follows the name (`recognised_iff`).

The segments of a path are what its slashes separate, so two slashes in a row
have an empty segment between them. `strtok` skips the empty ones; counted its
way, the segments of `//api/v1/nodes` name the API of nodes, to which neither
router dispatches, and the URL has to start like the API's as well (`Rooted`).

Key definitions: `Api`, `getApi`, `postApi`, `pathSegments`, `Recognised`,
`NoExtra`, `Rooted`.
Key theorems: `getApi_eq_some_iff`, `postApi_eq_some_iff`, `recognised_iff`.
-/
import Mathlib.Data.List.TakeWhile
import WtslCore.Http.RestfulApi

namespace WtslCore

/-- An entry of `wtapi_get_func_mappings` and `wtapi_post_func_mappings`. -/
inductive Api
  | nodes
  | user
  deriving DecidableEq, Repr

/-- The `apiname` of an entry. -/
def Api.apiname : Api → CStr
  | .nodes => "nodes".toList
  | .user => "user".toList

/-- The entries, in the order of both tables. -/
def apiMappings : List Api := [.nodes, .user]

/-- `strncmp(url, geturl, strlen(geturl)) == 0` for the URL of an API. -/
def startsWithApi (url : CStr) (a : Api) : Bool :=
  strncmpEq (apiUrl a.apiname).length url (apiUrl a.apiname)

/-- The API whose handler `wtcoreapi_parse_http_get_cmd` calls. -/
def getApi (url : CStr) : Option Api :=
  match (strtok '/' url)[2]? with
  | none => none
  | some apiNameInUrl =>
    apiMappings.find? fun a => isApiName apiNameInUrl a.apiname && startsWithApi url a

/-- The API whose handler `wtcoreapi_parse_http_post_cmd` calls. -/
def postApi (url : CStr) : Option Api := apiMappings.find? fun a => startsWithApi url a

/-- The segments of a path; a path starts with a slash. -/
def pathSegments : CStr → List CStr
  | '/' :: path => path.splitOn '/'
  | _ => []

/-- The first three segments are the API base, the version and the name. -/
def Names (segments : List CStr) (a : Api) : Prop :=
  segments.take 3 = ["api".toList, "v1".toList, a.apiname]

instance (segments : List CStr) (a : Api) : Decidable (Names segments a) :=
  inferInstanceAs (Decidable (_ = _))

/-- Both routers dispatch a URL to the API it names, and only to that. -/
def Recognised (segments : CStr → List CStr) (url : CStr) : Prop :=
  ∀ a, (getApi url = some a ↔ postApi url = some a) ∧ (getApi url = some a ↔ Names (segments url) a)

/-- Nothing but a slash follows the URL of an API. -/
def NoExtra (url : CStr) : Prop :=
  ∀ (a : Api) (c : Char) (t : CStr), url = apiUrl a.apiname ++ c :: t → c = '/'

/-- A URL whose tokens name an API starts like the API's URL: with one slash,
and with one slash between the names. -/
def Rooted (url : CStr) : Prop := ∀ a, Names (strtok '/' url) a → apiUrl a.apiname <+: url

variable {url : CStr} {a : Api}

/-! ### Dispatch by API -/

/-- The table has two entries, tried in their order. -/
theorem find?_apiMappings (p : Api → Bool) : apiMappings.find? p =
    if p .nodes = true then some .nodes else if p .user = true then some .user else none := by
  cases hn : p .nodes with
  | true => simp [apiMappings, hn]
  | false => cases hu : p .user <;> simp [apiMappings, hn, hu]

theorem wtcoreapiParseHttpGetCmd_eq (nodes : Option (List Node)) (url : CStr) :
    wtcoreapiParseHttpGetCmd nodes url =
      match getApi url with
      | some .nodes => wtslCoreGetNodesFunctions nodes (strtok '/' url)
      | _ => .error := by
  unfold wtcoreapiParseHttpGetCmd getApi
  by_cases h3 : (strtok '/' url).length < 3
  · simp only [h3, ↓reduceIte, List.getElem?_eq_none (by omega : (strtok '/' url).length ≤ 2)]
  · have h2 : (strtok '/' url)[2]? = some (strtok '/' url)[2] := List.getElem?_eq_getElem (by omega)
    simp only [h3, ↓reduceIte, h2, listGetStr, find?_apiMappings]
    by_cases hn : (isApiName (strtok '/' url)[2] "nodes".toList && isNodesUrl url) = true
    · rw [if_pos hn]
      simp only [Api.apiname, startsWithApi, ← isNodesUrl.eq_def, hn, ↓reduceIte]
    · rw [if_neg hn, ite_self]
      simp only [Api.apiname, startsWithApi, ← isNodesUrl.eq_def, ← isUserUrl.eq_def, hn,
        Bool.false_eq_true, ↓reduceIte]
      by_cases hu : (isApiName (strtok '/' url)[2] "user".toList && isUserUrl url) = true
      · simp only [hu, ↓reduceIte]
      · simp only [hu, Bool.false_eq_true, ↓reduceIte]

theorem wtcoreapiParseHttpPostCmd_eq (nodes : Option (List Node)) (url : CStr) :
    wtcoreapiParseHttpPostCmd nodes url =
      match postApi url with
      | some .nodes => wtslCorePostNodesFunctions nodes (strtok '/' url)
      | some .user => wtslCorePostUsersFunctions url
      | none => .error := by
  unfold wtcoreapiParseHttpPostCmd postApi
  rw [find?_apiMappings]
  simp only [Api.apiname, startsWithApi, ← isNodesUrl.eq_def, ← isUserUrl.eq_def]
  by_cases hn : isNodesUrl url = true
  · simp only [hn, ↓reduceIte]
  · by_cases hu : isUserUrl url = true
    · simp only [hn, hu, Bool.false_eq_true, ↓reduceIte]
    · simp only [hn, hu, Bool.false_eq_true, ↓reduceIte]

/-! ### Tokens -/

theorem strtok_word_cons {d : Char} {w : CStr} (hd : d ∉ w) (hw : w ≠ []) (t : CStr) :
    strtok d (w ++ d :: t) = w :: strtok d t := by
  rw [strtok, List.splitOn_append_cons_self_of_not_mem hd, List.filter_cons_of_pos]
  · rfl
  · simpa using hw

theorem strtok_word {d : Char} {w : CStr} (hd : d ∉ w) (hw : w ≠ []) : strtok d w = [w] := by
  rw [strtok, List.splitOn_eq_singleton hd, List.filter_cons_of_pos]
  · rfl
  · simpa using hw

theorem strtok_cons_sep (d : Char) (t : CStr) : strtok d (d :: t) = strtok d t := by
  have h : (d :: t).splitOn d = [] :: t.splitOn d :=
    List.splitOn_append_cons_self_of_not_mem List.not_mem_nil t
  rw [strtok, h]
  rfl

/-- The first token of a text that starts with a word goes up to the separator. -/
theorem strtok_word_append {d : Char} {w : CStr} (hd : d ∉ w) (hw : w ≠ []) (t : CStr) :
    ∃ ts, strtok d (w ++ t) = (w ++ t.takeWhile fun c => c != d) :: ts := by
  by_cases ht : d ∈ t
  · obtain ⟨v, u, rfl, hv⟩ := List.eq_append_cons_of_mem ht
    have htake : (v ++ d :: u).takeWhile (fun c => c != d) = v := by
      rw [List.takeWhile_append_of_pos fun c hc => ?_]
      · simp
      · simpa using ne_of_mem_of_not_mem hc hv
    rw [htake, ← List.append_assoc]
    exact ⟨_, strtok_word_cons (List.not_mem_append hd hv) (by simp [hw]) u⟩
  · have htake : t.takeWhile (fun c => c != d) = t := by
      refine List.takeWhile_eq_self_iff.mpr fun c hc => ?_
      simpa using ne_of_mem_of_not_mem hc ht
    rw [htake]
    exact ⟨[], strtok_word (List.not_mem_append hd ht) (by simp [hw])⟩

/-! ### The URLs each router takes -/

theorem startsWithApi_iff : startsWithApi url a = true ↔ apiUrl a.apiname <+: url := by
  rw [startsWithApi, strncmpEq, List.take_length, beq_iff_eq, List.prefix_iff_eq_take, eq_comm]

/-- No URL starts like those of two APIs. -/
theorem api_unique {b : Api} (ha : apiUrl a.apiname <+: url) (hb : apiUrl b.apiname <+: url) :
    a = b := by
  have hne : ∀ a b : Api, apiUrl a.apiname <+: apiUrl b.apiname → a = b := by
    intro a b
    cases a <;> cases b <;> decide
  rcases List.prefix_or_prefix_of_prefix ha hb with h | h
  · exact hne a b h
  · exact (hne b a h).symm

theorem find?_apiMappings_eq_some_iff {p : Api → Bool}
    (huniq : ∀ a b, p a = true → p b = true → a = b) : apiMappings.find? p = some a ↔ p a = true := by
  rw [find?_apiMappings]
  cases a with
  | nodes => split_ifs with h <;> simp_all
  | user =>
    split_ifs with hn hu
    · have h := huniq .nodes .user hn
      simp_all
    · simp [hu]
    · simp_all

/-- `POST` asks for the start of the URL only. -/
theorem postApi_eq_some_iff : postApi url = some a ↔ apiUrl a.apiname <+: url := by
  rw [postApi, find?_apiMappings_eq_some_iff, startsWithApi_iff]
  intro a b ha hb
  exact api_unique (startsWithApi_iff.mp ha) (startsWithApi_iff.mp hb)

theorem apiname_ne_nil (a : Api) : a.apiname ≠ [] := by cases a <;> decide

theorem slash_not_mem_apiname (a : Api) : '/' ∉ a.apiname := by cases a <;> decide

theorem apiUrl_eq (apiname : CStr) :
    apiUrl apiname = '/' :: ("api".toList ++ '/' :: ("v1".toList ++ '/' :: apiname)) := rfl

/-- The tokens of a URL that starts like an API's. -/
theorem strtok_apiUrl (a : Api) (t : CStr) : ∃ ts, strtok '/' (apiUrl a.apiname ++ t) =
    "api".toList :: "v1".toList :: (a.apiname ++ t.takeWhile fun c => c != '/') :: ts := by
  obtain ⟨ts, hts⟩ := strtok_word_append (slash_not_mem_apiname a) (apiname_ne_nil a) t
  refine ⟨ts, ?_⟩
  rw [apiUrl_eq, List.cons_append, strtok_cons_sep, List.append_assoc, List.cons_append,
    strtok_word_cons (by decide) (by decide), List.append_assoc, List.cons_append,
    strtok_word_cons (by decide) (by decide), hts]

/-- A token that starts with the name and is a start of it is the name. -/
theorem isApiName_append_iff (w v : CStr) : isApiName (w ++ v) w = true ↔ v = [] := by
  rw [isApiName, strncmpEq, beq_iff_eq, List.take_length,
    List.take_of_length_le (by rw [List.length_append]; omega)]
  exact List.append_right_eq_self

theorem takeWhile_slash_eq_nil_iff (t : CStr) :
    (t.takeWhile fun c => c != '/') = [] ↔ ∀ c ∈ t.head?, c = '/' := by
  cases t with
  | nil => simp
  | cons c t => simp [List.takeWhile_cons]

/-- `GET` takes an API's URL with nothing or a slash after it. -/
theorem getApi_eq_some_iff : getApi url = some a ↔
    ∃ t, url = apiUrl a.apiname ++ t ∧ ∀ c ∈ t.head?, c = '/' := by
  constructor
  · intro h
    unfold getApi at h
    cases h2 : (strtok '/' url)[2]? with
    | none => simp [h2] at h
    | some s =>
      simp only [h2] at h
      have hfound := List.find?_some h
      obtain ⟨hs, hu⟩ := Bool.and_eq_true_iff.mp hfound
      obtain ⟨t, rfl⟩ := startsWithApi_iff.mp hu
      obtain ⟨ts, hts⟩ := strtok_apiUrl a t
      rw [hts] at h2
      obtain rfl : a.apiname ++ (t.takeWhile fun c => c != '/') = s := Option.some.inj h2
      exact ⟨t, rfl, (takeWhile_slash_eq_nil_iff t).mp ((isApiName_append_iff _ _).mp hs)⟩
  · rintro ⟨t, rfl, ht⟩
    obtain ⟨ts, hts⟩ := strtok_apiUrl a t
    rw [(takeWhile_slash_eq_nil_iff t).mpr ht] at hts
    unfold getApi
    rw [hts]
    refine (find?_apiMappings_eq_some_iff fun b c hb hc => ?_).mpr ?_
    · exact api_unique (startsWithApi_iff.mp (Bool.and_eq_true_iff.mp hb).2)
        (startsWithApi_iff.mp (Bool.and_eq_true_iff.mp hc).2)
    · refine Bool.and_eq_true_iff.mpr ⟨(isApiName_append_iff _ _).mpr rfl, ?_⟩
      exact startsWithApi_iff.mpr (List.prefix_append _ t)

/-! ### The URLs that name an API -/

theorem names_iff {segments : List CStr} : Names segments a ↔
    ∃ rest, segments = "api".toList :: "v1".toList :: a.apiname :: rest := by
  constructor
  · intro h
    exact ⟨segments.drop 3, by rw [← List.take_append_drop 3 segments, h]; rfl⟩
  · rintro ⟨rest, rfl⟩
    rfl

/-- The first piece between separators and the pieces after it. -/
theorem splitOn_eq_cons {d : Char} {s w : CStr} {ws : List CStr} (h : s.splitOn d = w :: ws) :
    (ws = [] ∧ s = w) ∨ ∃ t, s = w ++ d :: t ∧ t.splitOn d = ws := by
  by_cases hd : d ∈ s
  · obtain ⟨v, t, rfl, hv⟩ := List.eq_append_cons_of_mem hd
    rw [List.splitOn_append_cons_self_of_not_mem hv, List.cons.injEq] at h
    obtain ⟨rfl, rfl⟩ := h
    exact .inr ⟨t, rfl, rfl⟩
  · rw [List.splitOn_eq_singleton hd, List.cons.injEq] at h
    obtain ⟨rfl, rfl⟩ := h
    exact .inl ⟨rfl, rfl⟩

/-- By the segments of the path, the URLs `GET` takes. -/
theorem names_pathSegments_iff : Names (pathSegments url) a ↔ getApi url = some a := by
  rw [getApi_eq_some_iff, names_iff]
  constructor
  · rintro ⟨rest, h⟩
    unfold pathSegments at h
    split at h
    · obtain ⟨hnil, -⟩ | ⟨t1, rfl, h1⟩ := splitOn_eq_cons h
      · exact absurd hnil (List.cons_ne_nil _ _)
      · obtain ⟨hnil, -⟩ | ⟨t2, rfl, h2⟩ := splitOn_eq_cons h1
        · exact absurd hnil (List.cons_ne_nil _ _)
        · obtain ⟨-, rfl⟩ | ⟨t3, rfl, -⟩ := splitOn_eq_cons h2
          · exact ⟨[], (List.append_nil _).symm, by simp⟩
          · exact ⟨'/' :: t3, by rw [apiUrl_eq]; simp, by simp⟩
    · exact absurd h (List.cons_ne_nil _ _).symm
  · rintro ⟨t, rfl, ht⟩
    have hpath : pathSegments (apiUrl a.apiname ++ t) =
        "api".toList :: "v1".toList :: (a.apiname ++ t).splitOn '/' := by
      rw [apiUrl_eq, List.cons_append, pathSegments, List.append_assoc, List.cons_append,
        List.splitOn_append_cons_self_of_not_mem (by decide), List.append_assoc, List.cons_append,
        List.splitOn_append_cons_self_of_not_mem (by decide)]
    rw [hpath]
    cases t with
    | nil =>
      rw [List.append_nil, List.splitOn_eq_singleton (slash_not_mem_apiname a)]
      exact ⟨[], rfl⟩
    | cons c t =>
      obtain rfl : c = '/' := ht c rfl
      rw [List.splitOn_append_cons_self_of_not_mem (slash_not_mem_apiname a)]
      exact ⟨_, rfl⟩

/-- By its tokens too, a URL that starts like an API's names what `GET` takes it for. -/
theorem names_strtok_iff (h : apiUrl a.apiname <+: url) :
    Names (strtok '/' url) a ↔ getApi url = some a := by
  obtain ⟨t, rfl⟩ := h
  obtain ⟨ts, hts⟩ := strtok_apiUrl a t
  rw [getApi_eq_some_iff, names_iff, hts]
  simp only [List.cons.injEq, true_and, List.append_right_eq_self, takeWhile_slash_eq_nil_iff,
    List.append_cancel_left_eq, exists_and_left, exists_eq', and_true, exists_eq_left']

/-! ### Where the routers agree -/

theorem postApi_of_getApi (h : getApi url = some a) : postApi url = some a := by
  obtain ⟨t, rfl, -⟩ := getApi_eq_some_iff.mp h
  exact postApi_eq_some_iff.mpr (List.prefix_append _ t)

/-- The routers agree on a URL unless something follows the name. -/
theorem routers_agree_iff : (∀ a, getApi url = some a ↔ postApi url = some a) ↔ NoExtra url := by
  constructor
  · intro h a c t hurl
    have hpost : postApi url = some a := postApi_eq_some_iff.mpr ⟨c :: t, hurl.symm⟩
    obtain ⟨u, hu, hhead⟩ := getApi_eq_some_iff.mp ((h a).mpr hpost)
    obtain rfl : c :: t = u := List.append_cancel_left (hurl.symm.trans hu)
    exact hhead c rfl
  · intro h a
    refine ⟨postApi_of_getApi, fun hpost => ?_⟩
    obtain ⟨t, rfl⟩ := postApi_eq_some_iff.mp hpost
    refine getApi_eq_some_iff.mpr ⟨t, rfl, fun c hc => ?_⟩
    obtain ⟨u, rfl⟩ : ∃ u, t = c :: u := List.head?_eq_some_iff.mp hc
    exact h a c u rfl

/-- The routers recognise the same URLs, those whose first three segments are
the base, the version and the name, if and only if nothing but a slash follows
the name of an API; with the segments counted as `strtok` does, if and only if
also the URLs that name an API start like the API's. -/
theorem recognised_iff (url : CStr) :
    (Recognised pathSegments url ↔ NoExtra url) ∧
      (Recognised (strtok '/') url ↔ NoExtra url ∧ Rooted url) := by
  constructor
  · unfold Recognised
    simp only [names_pathSegments_iff, and_true]
    exact routers_agree_iff
  · constructor
    · intro h
      refine ⟨routers_agree_iff.mp fun a => (h a).1, fun a ha => ?_⟩
      exact postApi_eq_some_iff.mp ((h a).1.mp ((h a).2.mpr ha))
    · rintro ⟨hextra, hroot⟩ a
      refine ⟨routers_agree_iff.mpr hextra a, fun hget => ?_, fun hn => ?_⟩
      · exact (names_strtok_iff (postApi_eq_some_iff.mp (postApi_of_getApi hget))).mpr hget
      · exact (names_strtok_iff (hroot a hn)).mp hn

/-- `POST` takes a longer word for `nodes`. -/
theorem postApi_extra : getApi "/api/v1/nodesX".toList = none ∧
    postApi "/api/v1/nodesX".toList = some .nodes ∧
      ¬ Recognised pathSegments "/api/v1/nodesX".toList ∧
        ¬ Recognised (strtok '/') "/api/v1/nodesX".toList := by
  have hget : getApi "/api/v1/nodesX".toList = none := by decide
  have hpost : postApi "/api/v1/nodesX".toList = some .nodes := by decide
  refine ⟨hget, hpost, fun h => ?_, fun h => ?_⟩ <;>
    exact absurd ((h .nodes).1.mpr hpost) (by rw [hget]; exact Option.some_ne_none _ ∘ Eq.symm)

end WtslCore
