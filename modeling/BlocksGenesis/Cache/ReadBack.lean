import BlocksGenesis.Cache.ConnectionString

/-! When a connection string is read back as it is written. -/

namespace BlocksGenesis.Cache.ConnectionString
open Python Python.Url

section Texts
variable {redis : RedisPy} {c : ConnectionString} {o : String × String}

/-! ## The settings of the query -/

theorem queryArgument_ok_iff {name : String} {values : List String} :
    (∃ setting, redis.queryArgument name values = .ok setting) ↔
      ∀ parser, redis.parsers name = some parser → ∃ setting, parser (unquote (values.headD "")) = .ok setting := by
  unfold RedisPy.queryArgument
  cases hparser : redis.parsers name with
  | none => simp
  | some parser =>
    simp only [Option.some.injEq]
    cases hsetting : parser (unquote (values.headD "")) with
    | ok setting => exact ⟨fun _ _ he => he ▸ ⟨setting, hsetting⟩, fun _ => ⟨setting, rfl⟩⟩
    | error e =>
      constructor
      · rintro ⟨setting, he⟩
        cases he
      · intro h
        obtain ⟨setting, he⟩ := h parser rfl
        cases hsetting.symm.trans he

section Mapped
variable {make : String → List String → Except Exc Setting} {found : Dict String (List String)} {config : Config}

theorem lookup_mapM (h : found.mapM (fun entry => do return (entry.1, ← make entry.1 entry.2)) = .ok config)
    (name : String) : config.lookup name = (found.lookup name).bind (fun values => (make name values).toOption) := by
  induction found generalizing config with
  | nil =>
    cases h
    rfl
  | cons entry found ih =>
    rw [List.mapM_cons] at h
    obtain ⟨made, hmade, h⟩ := bind_ok_iff.mp h
    obtain ⟨rest, hrest, h⟩ := bind_ok_iff.mp h
    obtain ⟨setting, hsetting, hpair⟩ := bind_ok_iff.mp hmade
    cases pure_ok_iff.mp h
    cases pure_ok_iff.mp hpair
    by_cases hname : name = entry.1
    · subst hname
      rw [List.lookup_cons, List.lookup_cons, beq_self_eq_true]
      simp only [Option.bind_some, hsetting, Except.toOption]
    · rw [Dict.lookup_cons_of_ne entry hname, ← ih hrest]
      exact Dict.lookup_cons_of_ne (entry.1, setting) hname

theorem mapM_ok_iff : (∃ config, found.mapM (fun entry => do return (entry.1, ← make entry.1 entry.2)) = .ok config) ↔
    ∀ entry ∈ found, ∃ setting, make entry.1 entry.2 = .ok setting := by
  induction found with
  | nil => simp [pure, Except.pure]
  | cons entry found ih =>
    rw [List.forall_mem_cons, ← ih]
    constructor
    · rintro ⟨config, h⟩
      rw [List.mapM_cons] at h
      obtain ⟨made, hmade, h⟩ := bind_ok_iff.mp h
      obtain ⟨rest, hrest, _⟩ := bind_ok_iff.mp h
      obtain ⟨setting, hsetting, _⟩ := bind_ok_iff.mp hmade
      exact ⟨⟨setting, hsetting⟩, rest, hrest⟩
    · rintro ⟨⟨setting, hsetting⟩, rest, hrest⟩
      refine ⟨(entry.1, setting) :: rest, ?_⟩
      rw [List.mapM_cons, hrest, hsetting]
      rfl

end Mapped

theorem queried_spec {name : String} (h : c.queried name = some o) :
    o ∈ c.options ∧ readKey o.1 = name ∧ isBlank o.2 = false := by
  have hread := List.find?_some h
  simp only [Bool.and_eq_true, beq_iff_eq, Bool.not_eq_true'] at hread
  exact ⟨List.mem_of_find?_eq_some h, hread⟩

theorem readKey_plain {key : String} (h : ∀ d ∈ key.toList, isUnsafe d = false ∧ d ≠ '+' ∧ d ≠ '%') :
    readKey key = key := by
  have hsafe : key.toList.filter (fun d => !isUnsafe d) = key.toList := by
    rw [List.filter_eq_self]
    intro d hd
    rw [(h d hd).1]
    rfl
  have hplus : plusToSpace key.toList = key.toList :=
    plusToSpace_eq_self_iff.mpr (fun hm => (h _ hm).2.1 rfl)
  have hescape : hasEscape key.toList = false := hasEscape_of_not_mem (fun hm => (h _ hm).2.2 rfl)
  unfold readKey
  rw [hsafe, hplus, unquoteChars_plain hescape, String.ofList_toList]

/-- The names that are read for what is claimed. -/
theorem readKey_name {name : String}
    (hname : name ∈ ["password", "username", "ssl", "connectTimeout", "syncTimeout"]) : readKey name = name := by
  apply readKey_plain
  simp only [List.mem_cons, List.not_mem_nil, or_false] at hname
  rcases hname with rfl | rfl | rfl | rfl | rfl
  all_goals exact List.all_iff_forall_prop.mp (by decide)

/-- What is written with a value is found, if under another key. -/
theorem exists_queried {name value : String} (hname : readKey name = name)
    (hvalue : c.options.lookup name = some value) (hgiven : isBlank value = false) :
    ∃ o, c.queried name = some o := by
  have hsome : (c.queried name).isSome = true := by
    rw [queried, List.find?_isSome]
    refine ⟨(name, value), Dict.mem_of_lookup hvalue, ?_⟩
    rw [hname, hgiven, beq_self_eq_true]
    rfl
  exact Option.isSome_iff_exists.mp hsome

theorem lookup_queried {name : String} (h : c.queried name = some o) (hkey : o.1 = name) :
    c.options.lookup name = some o.2 := by
  rw [← hkey]
  exact Dict.lookup_of_mem c.keys (queried_spec h).1

theorem isBlank_verbatim {value : String} (h : Verbatim value) : isBlank value = false := by
  have hkept : value.toList.filter (fun d => !isUnsafe d) = value.toList := by
    rw [List.filter_eq_self]
    intro d hd
    rw [h.2.1 d hd]
    rfl
  unfold isBlank
  rw [hkept, List.isEmpty_eq_false_iff]
  exact fun hnil => h.1 (String.toList_eq_nil_iff.mp hnil)

theorem decoded_eq_iff {value : String} (hgiven : isBlank value = false) : decoded value = value ↔ Verbatim value := by
  have hne : value ≠ "" := by
    rintro rfl
    exact absurd hgiven (by decide)
  have hread : decoded value = value ↔ readValue value.toList = value.toList := by
    rw [decoded, ← String.toList_inj, String.toList_ofList]
  rw [hread, readValue_eq_self_iff]
  exact ⟨fun h => ⟨hne, h⟩, fun h => h.2⟩

/-- A value that is read at all is not read as nothing. -/
theorem truthy_decoded {value : String} (hgiven : isBlank value = false) :
    (Setting.text (decoded value)).truthy = true := by
  have hkept : value.toList.filter (fun d => !isUnsafe d) ≠ [] := List.isEmpty_eq_false_iff.mp hgiven
  have hplus : plusToSpace (value.toList.filter (fun d => !isUnsafe d)) ≠ [] :=
    fun hnil => hkept (List.map_eq_nil_iff.mp hnil)
  have hread : readValue value.toList ≠ [] := unquoteChars_ne_nil (unquoteChars_ne_nil hplus)
  simp [Setting.truthy, decoded, hread]

theorem nameKept_iff (c : ConnectionString) (name : String) :
    (c.queried name).map (fun o => decoded o.2) = c.options.lookup name ↔ c.NameKept name := by
  unfold NameKept
  cases hqueried : c.queried name with
  | none =>
    cases c.options.lookup name with
    | none => simp
    | some value => simp
  | some o =>
    cases hvalue : c.options.lookup name with
    | none => simp
    | some value =>
      simp only [Option.map_some, Option.some.injEq]
      split
      · rename_i hkey
        have hsame : o.2 = value := Option.some.inj ((lookup_queried hqueried hkey).symm.trans hvalue)
        rw [← hsame]
        exact decoded_eq_iff (queried_spec hqueried).2.2
      · exact Iff.rfl

variable {config : Config}

theorem queriedValue_some {value : String} (hgiven : isBlank value = false) :
    ∃ read, queriedValue value = some read ∧ unquote read = decoded value := by
  refine ⟨_, by rw [queriedValue, hgiven, if_neg Bool.false_ne_true], ?_⟩
  rw [unquote, String.toList_ofList]
  rfl

/-- What is found under a name in the query is the option that is read so. -/
theorem lookup_query (hwhole : c.Whole) {name : String} {values : List String}
    (h : (parseQs (urlTail '&' c.fields)).lookup name = some values) :
    ∃ o, c.queried name = some o ∧ unquote (values.headD "") = decoded o.2 := by
  have hfirst := first_value hwhole name
  rw [h, Option.map_some] at hfirst
  obtain ⟨o, ho, hvalue⟩ := Option.bind_eq_some_iff.mp hfirst.symm
  obtain ⟨read, hread, hdecoded⟩ := queriedValue_some (queried_spec ho).2.2
  refine ⟨o, ho, ?_⟩
  rw [← Option.some.inj (hread.symm.trans hvalue)]
  exact hdecoded

theorem query_lookup (hwhole : c.Whole) {name : String} (h : c.queried name = some o) :
    ∃ values, (parseQs (urlTail '&' c.fields)).lookup name = some values ∧
      unquote (values.headD "") = decoded o.2 := by
  have hfirst := first_value hwhole name
  obtain ⟨read, hread, hdecoded⟩ := queriedValue_some (queried_spec h).2.2
  rw [h, Option.bind_some, hread] at hfirst
  obtain ⟨values, hlookup, hvalue⟩ := Option.map_eq_some_iff.mp hfirst
  exact ⟨values, hlookup, by rw [hvalue, hdecoded]⟩

theorem arguments_ok_iff (hwhole : c.Whole) : (∃ config, c.arguments redis = .ok config) ↔ c.Parsed redis := by
  have hcollected := collected_parseQs (urlTail '&' c.fields)
  unfold arguments
  rw [mapM_ok_iff]
  constructor
  · intro h name o parser ho hparser
    obtain ⟨values, hlookup, hvalue⟩ := query_lookup hwhole ho
    rw [← hvalue]
    exact queryArgument_ok_iff.mp (h _ (Dict.mem_of_lookup hlookup)) parser hparser
  · intro h entry hentry
    rw [queryArgument_ok_iff]
    intro parser hparser
    obtain ⟨o, ho, hvalue⟩ := lookup_query hwhole (Dict.lookup_of_mem hcollected.keys hentry)
    rw [hvalue]
    exact h entry.1 o parser ho hparser

/-- What redis-py leaves as it is of the option that is read under a name. -/
def setting (c : ConnectionString) (name : String) : Option Setting :=
  (c.queried name).map (fun o => .text (decoded o.2))

theorem arguments_lookup (hwhole : c.Whole) (h : c.arguments redis = .ok config) {name : String}
    (hname : redis.parsers name = none) : config.lookup name = c.setting name := by
  have hargument : ∀ values : List String, (redis.queryArgument name values).toOption =
      some (.text (unquote (values.headD ""))) := by
    intro values
    unfold RedisPy.queryArgument
    rw [hname]
    rfl
  rw [lookup_mapM h, setting]
  cases hqueried : c.queried name with
  | some o =>
    obtain ⟨values, hlookup, hvalue⟩ := query_lookup hwhole hqueried
    rw [hlookup, Option.bind_some, hargument, hvalue]
    rfl
  | none =>
    cases hlookup : (parseQs (urlTail '&' c.fields)).lookup name with
    | none => rfl
    | some values =>
      obtain ⟨o, ho, _⟩ := lookup_query hwhole hlookup
      cases hqueried.symm.trans ho

/-! ## The user in the text -/

theorem rdropWhile_append_sign {p : Char → Bool} {sign : Char} (hsign : p sign = false) (start rest : List Char) :
    (start ++ sign :: rest).rdropWhile p = start ++ sign :: rest.rdropWhile p := by
  induction rest using List.reverseRecOn with
  | nil => exact List.rdropWhile_concat_neg _ _ _ (by simp [hsign])
  | append_singleton rest last ih =>
    have hassoc : start ++ sign :: (rest ++ [last]) = (start ++ sign :: rest) ++ [last] := by simp
    rw [hassoc, List.rdropWhile_concat, List.rdropWhile_concat, ih]
    split
    · rfl
    · simp

theorem toList_lstrip (s : String) : (lstrip s).toList = s.toList.dropWhile isSpace := by
  rw [lstrip, String.toList_ofList]

/-- The white space before the key and after the value is stripped. -/
theorem strip_option (o : String × String) :
    strip (String.ofList (optionChars o)) = String.ofList ((lstrip o.1).toList ++ '=' :: (rstrip o.2).toList) := by
  have hstart : (optionChars o).dropWhile isSpace = o.1.toList.dropWhile isSpace ++ '=' :: o.2.toList := by
    unfold optionChars
    rw [List.dropWhile_append]
    split
    · rename_i hspace
      rw [List.isEmpty_iff.mp hspace, List.dropWhile_cons_of_neg (by decide)]
      rfl
    · rfl
  rw [strip, String.toList_ofList, stripChars, hstart, rdropWhile_append_sign (by decide), toList_lstrip, rstrip,
    String.toList_ofList]

theorem equals_not_mem (ho : o ∈ c.options) : ∀ d ∈ (lstrip o.1).toList, (d != '=') = true := by
  intro d hd
  rw [toList_lstrip] at hd
  refine bne_iff_ne.mpr (fun he => (c.keyChars o ho).2 ?_)
  rw [← he]
  exact (List.dropWhile_sublist _).subset hd

theorem startsWith_option (ho : o ∈ c.options) (value : List Char) :
    startsWith (String.ofList ((lstrip o.1).toList ++ '=' :: value)) "user=" = (lstrip o.1 == "user") := by
  have hall := equals_not_mem ho
  rw [startsWith, String.toList_ofList, String.toList_ofList, Bool.eq_iff_iff, List.isPrefixOf_iff_prefix, beq_iff_eq]
  constructor
  · rintro ⟨rest, he⟩
    have hstart : (['u', 's', 'e', 'r', '='] ++ rest).takeWhile (· != '=') = "user".toList := rfl
    have hcut : ((lstrip o.1).toList ++ '=' :: value).takeWhile (· != '=') = (lstrip o.1).toList := by
      rw [List.takeWhile_append_of_pos hall, List.takeWhile_cons_of_neg (by decide), List.append_nil]
    rw [← String.toList_inj, ← hcut, ← he, hstart]
  · intro hkey
    rw [hkey]
    exact ⟨value, rfl⟩

theorem after_option (ho : o ∈ c.options) (value : List Char) :
    after '=' (String.ofList ((lstrip o.1).toList ++ '=' :: value)) = String.ofList value := by
  rw [after, String.toList_ofList, List.dropWhile_append_of_pos (equals_not_mem ho),
    List.dropWhile_cons_of_neg (by decide)]
  rfl

theorem userPart_text (c : ConnectionString) : userPart c.text = c.userText := by
  have hsplit : splitChars ',' c.text.toList = c.netloc :: c.options.map optionChars := by
    rw [toList_text]
    apply splitChars_flatMap
    · exact fun hm => ne_of_netloc hm (by decide) (by decide) rfl
    · intro cs hcs
      obtain ⟨o, ho, rfl⟩ := List.mem_map.mp hcs
      exact comma_not_mem ho
  have haddress : startsWith (strip (String.ofList c.netloc)) "user=" = false := by
    cases hstart : startsWith (strip (String.ofList c.netloc)) "user=" with
    | false => rfl
    | true =>
      have hprefix := List.isPrefixOf_iff_prefix.mp hstart
      have hequals : '=' ∈ (strip (String.ofList c.netloc)).toList := hprefix.subset (by decide)
      have hm := mem_of_mem_strip hequals
      rw [String.toList_ofList] at hm
      exact absurd rfl (ne_of_netloc hm (by decide) (by decide))
  have hfind : ∀ options : List (String × String), (∀ o ∈ options, o ∈ c.options) →
      (((options.map optionChars).map String.ofList).map strip).findSome?
        (fun part => if startsWith part "user=" then some (after '=' part) else none) =
          (options.find? (fun o => lstrip o.1 == "user")).map (fun o => rstrip o.2) := by
    intro options hall
    induction options with
    | nil => rfl
    | cons o options ih =>
      have ho := hall o List.mem_cons_self
      rw [List.map_cons, List.map_cons, List.map_cons, List.findSome?_cons, strip_option, startsWith_option ho,
        after_option ho, String.ofList_toList, List.find?_cons]
      cases lstrip o.1 == "user" with
      | true => rfl
      | false => exact ih (fun o hm => hall o (List.mem_cons_of_mem _ hm))
  unfold userPart split
  rw [hsplit, List.map_cons, List.map_cons, List.findSome?_cons, haddress]
  exact hfind c.options (fun _ ho => ho)

/-- What is read of the user. -/
def userRead (c : ConnectionString) : Option Setting := (c.setting "username").or (c.userText.map .text)

theorem withUser_username (h : config.lookup "username" = c.setting "username") :
    (config.withUser c.text).lookup "username" = c.userRead := by
  unfold Config.withUser userRead
  rw [userPart_text, h]
  cases hqueried : c.queried "username" with
  | some o =>
    have hsetting : c.setting "username" = some (.text (decoded o.2)) := by rw [setting, hqueried]; rfl
    rw [hsetting, Option.any_some, truthy_decoded (queried_spec hqueried).2.2, if_pos rfl, h, hsetting]
    rfl
  | none =>
    have hsetting : c.setting "username" = none := by rw [setting, hqueried]; rfl
    rw [hsetting, Option.any_none, if_neg Bool.false_ne_true, Option.none_or]
    cases c.userText with
    | none => exact h.trans hsetting
    | some user => exact Dict.lookup_set_self

theorem withUser_other {name : String} (hname : name ≠ "username") (s : String) :
    (config.withUser s).lookup name = config.lookup name := by
  unfold Config.withUser
  split
  · rfl
  · split
    · exact Dict.lookup_set_of_ne hname
    · rfl

theorem userRead_iff (c : ConnectionString) : c.userRead = c.user.map .text ↔ c.UserKept := by
  unfold userRead setting UserKept
  cases hqueried : c.queried "username" with
  | none =>
    rw [Option.map_none, Option.none_or]
    cases c.userText with
    | none => cases c.user <;> simp
    | some text => cases c.user <;> simp
  | some o =>
    simp only [Option.map_some, Option.some_or]
    have hother : some (Setting.text (decoded o.2)) = c.user.map .text ↔ c.user = some (decoded o.2) := by
      cases c.user with
      | none => simp
      | some user => simp [eq_comm]
    split
    · rename_i hkey
      have hgiven := (queried_spec hqueried).2.2
      have hne : o.2 ≠ "" := by
        intro hempty
        rw [hempty] at hgiven
        exact absurd hgiven (by decide)
      have huser : c.user = some o.2 := by
        unfold user
        rw [lookup_queried hqueried hkey]
        exact if_neg hne
      rw [hother, huser, Option.some.injEq, eq_comm]
      exact decoded_eq_iff hgiven
    · exact hother

/-! ## The timeouts -/

theorem decimal_digits {cs : List Char} {n : Nat} (h : decimal cs = some n) :
    cs ≠ [] ∧ ∀ d ∈ cs, d.isDigit = true := by
  unfold decimal at h
  split at h
  · cases h
  · rename_i hdigits
    simpa using hdigits

theorem digit_ne {d sign : Char} (hd : d.isDigit = true) (hsign : sign.isDigit = false) : d ≠ sign := by
  rintro rfl
  exact absurd (hsign.symm.trans hd) Bool.false_ne_true

theorem isSpace_of_digit {d : Char} (hd : d.isDigit = true) : isSpace d = false := by
  simp only [Char.isDigit, Bool.and_eq_true, decide_eq_true_eq] at hd
  have hcode : 48 ≤ d.toNat ∧ d.toNat ≤ 57 := hd
  unfold isSpace
  simp
  omega

theorem toInt_decimal {value : String} {n : Nat} (h : decimal value.toList = some n) :
    Python.toInt value = if value.toList.length ≤ maxStrDigits then some (n : Int) else none := by
  obtain ⟨hgiven, hdigits⟩ := decimal_digits h
  have hstrip : stripChars isSpace value.toList = value.toList := by
    apply stripChars_of_ends
    · exact fun d hd => isSpace_of_digit (hdigits d (List.mem_of_mem_head? hd))
    · exact fun d hd => isSpace_of_digit (hdigits d (List.mem_of_getLast? hd))
  have hsign : ∀ sign : Char, sign.isDigit = false → sign ∉ value.toList :=
    fun sign hs hm => digit_ne (hdigits sign hm) hs rfl
  have hunsigned : unsignedInt value.toList =
      if value.toList.length ≤ maxStrDigits then some (n : Int) else none := by
    have hfilter : value.toList.filter (· != '_') = value.toList := by
      rw [List.filter_eq_self]
      exact fun d hd => bne_iff_ne.mpr (digit_ne (hdigits d hd) (by decide))
    unfold unsignedInt
    rw [splitChars_of_not_mem (hsign '_' (by decide)), hfilter]
    simp [h]
  unfold Python.toInt
  rw [hstrip]
  split
  · rename_i rest he
    exact absurd (he ▸ List.mem_cons_self) (hsign '-' (by decide))
  · rename_i rest he
    exact absurd (he ▸ List.mem_cons_self) (hsign '+' (by decide))
  · exact hunsigned

/-- A numeral is read from the query as it is written. -/
theorem decimal_verbatim {value : String} {n : Nat} (h : decimal value.toList = some n) : Verbatim value := by
  obtain ⟨hgiven, hdigits⟩ := decimal_digits h
  have hsign : ∀ sign : Char, sign.isDigit = false → sign ∉ value.toList :=
    fun sign hs hm => digit_ne (hdigits sign hm) hs rfl
  refine ⟨?_, ?_, hsign '+' (by decide), hasEscape_of_not_mem (hsign '%' (by decide))⟩
  · rintro rfl
    exact hgiven rfl
  · intro d hd
    cases hunsafe : isUnsafe d with
    | false => rfl
    | true => exact absurd (isSpace_of_isUnsafe hunsafe) (by rw [isSpace_of_digit (hdigits d hd)]; decide)

/-- An integer of milliseconds that becomes seconds. -/
def Seconds (text : String) (milliseconds : Int) : Prop :=
  Python.toInt text = some milliseconds ∧ milliseconds.natAbs < floatBound * 1000

theorem seconds_ok_iff {text : String} {setting : Setting} :
    (Setting.text text).seconds = .ok setting ↔ ∃ n, Seconds text n ∧ setting = .quotient n 1000 := by
  unfold Setting.seconds Seconds
  cases hint : Python.toInt text with
  | none =>
    have hread : (Setting.text text).toInt = .error (intError text) := by simp only [Setting.toInt, hint]
    rw [hread]
    simp [bind, Except.bind]
  | some n =>
    have hread : (Setting.text text).toInt = .ok n := by simp only [Setting.toInt, hint]
    rw [hread]
    simp only [bind, Except.bind]
    by_cases hsize : n.natAbs < floatBound * 1000
    · rw [if_pos hsize, Except.ok.injEq]
      constructor
      · rintro rfl
        exact ⟨n, ⟨rfl, hsize⟩, rfl⟩
      · rintro ⟨m, ⟨hm, _⟩, rfl⟩
        rw [Option.some.inj hm]
    · rw [if_neg hsize]
      constructor
      · intro he
        cases he
      · rintro ⟨m, ⟨hm, hroom⟩, _⟩
        rw [← Option.some.inj hm] at hroom
        exact absurd hroom hsize

/-- What is read as a timeout has become seconds, and is the timeout that is written, if one is. -/
def TimeKept (c : ConnectionString) (name : String) (o : String × String) : Prop :=
  ∃ n, Seconds (decoded o.2) n ∧
    ∀ value, c.options.lookup name = some value → (decimal value.toList).map Int.ofNat = some n

theorem timed_iff (c : ConnectionString) : c.Timed ↔
    ∀ name ∈ ["connectTimeout", "syncTimeout"], ∀ o, c.queried name = some o → c.TimeKept name o := by
  refine forall₂_congr (fun name hname => forall₂_congr (fun o ho => ?_))
  split
  · rename_i hkey
    have hvalue := lookup_queried ho hkey
    obtain ⟨n, hn⟩ := Option.isSome_iff_exists.mp (c.timeouts name hname o.2 hvalue)
    have hread : decoded o.2 = o.2 := (decoded_eq_iff (queried_spec ho).2.2).mpr (decimal_verbatim hn)
    unfold TimeKept Seconds
    rw [hread, toInt_decimal hn]
    constructor
    · intro hroom
      obtain ⟨hdigits, hsize⟩ := hroom n hn
      refine ⟨n, ⟨if_pos hdigits, by simpa using hsize⟩, ?_⟩
      intro value hwritten
      rw [← Option.some.inj (hvalue.symm.trans hwritten), hn]
      rfl
    · rintro ⟨m, ⟨hm, hsize⟩, _⟩ milliseconds hmilliseconds
      rw [← Option.some.inj (hn.symm.trans hmilliseconds)]
      split at hm
      · rename_i hdigits
        rw [← Option.some.inj hm] at hsize
        exact ⟨hdigits, by simpa using hsize⟩
      · cases hm
  · constructor
    · rintro ⟨n, hn, hsize, hwritten⟩
      exact ⟨n, ⟨hn, hsize⟩, hwritten⟩
    · rintro ⟨n, ⟨hn, hsize⟩, hwritten⟩
      exact ⟨n, hn, hsize, hwritten⟩

section Timeouts
variable {timed : Config} {name target : String}

theorem withTimeout_exists (h : ∀ setting, config.lookup name = some setting → ∃ seconds, setting.seconds = .ok seconds) :
    ∃ timed, config.withTimeout name target = .ok timed := by
  unfold Config.withTimeout
  cases hname : config.lookup name with
  | none => exact ⟨config, rfl⟩
  | some setting =>
    obtain ⟨seconds, hseconds⟩ := h setting hname
    refine ⟨(config.pop name).set target seconds, ?_⟩
    simp only [hseconds]
    rfl

/-- The one key is gone and the other has the seconds; nothing else is touched. -/
theorem withTimeout_changes (h : config.withTimeout name target = .ok timed) :
    (∀ other, other ≠ name → other ≠ target → timed.lookup other = config.lookup other) ∧
      ∀ setting, config.lookup name = some setting →
        ∃ seconds, setting.seconds = .ok seconds ∧ timed.lookup target = some seconds := by
  unfold Config.withTimeout at h
  cases hname : config.lookup name with
  | none =>
    rw [hname] at h
    cases h
    refine ⟨fun _ _ _ => rfl, ?_⟩
    intro setting hnone
    cases hnone
  | some setting =>
    rw [hname] at h
    obtain ⟨seconds, hseconds, h⟩ := bind_ok_iff.mp h
    cases pure_ok_iff.mp h
    constructor
    · intro other hother htarget
      exact (Dict.lookup_set_of_ne htarget).trans (Dict.lookup_pop_of_ne hother)
    · intro found hfound
      cases hfound
      exact ⟨seconds, hseconds, Dict.lookup_set_self⟩

end Timeouts

/-! ## The configuration -/

/-- What there is in the configuration, as far as it is claimed. -/
structure Outcome (redis : RedisPy) (c : ConnectionString) (config : Config) : Prop where
  host : config.lookup "host" = some (.text (c.hostRead redis))
  port : config.lookup "port" = if c.port = 0 then c.setting "port" else some (.number c.port)
  username : config.lookup "username" = c.userRead
  read : ∀ name ∈ ["password", "ssl"], config.lookup name = c.setting name
  connectTimeout : ∀ o, c.queried "connectTimeout" = some o →
    ∃ n, Seconds (decoded o.2) n ∧ config.lookup "socket_connect_timeout" = some (.quotient n 1000)
  syncTimeout : ∀ o, c.queried "syncTimeout" = some o →
    ∃ n, Seconds (decoded o.2) n ∧ config.lookup "socket_timeout" = some (.quotient n 1000)
  allowed : ∀ entry ∈ config, entry.1 ∈ allowedKeys

theorem withAddress_other {name : String} (hhost : name ≠ "host") (hport : name ≠ "port") :
    (c.withAddress redis config).lookup name = config.lookup name := by
  unfold withAddress
  simp only
  split
  · exact Dict.lookup_set_of_ne hhost
  · exact (Dict.lookup_set_of_ne hport).trans (Dict.lookup_set_of_ne hhost)

theorem withAddress_host : (c.withAddress redis config).lookup "host" =
    some (.text (c.hostRead redis)) := by
  unfold withAddress
  simp only
  split
  · exact Dict.lookup_set_self
  · exact (Dict.lookup_set_of_ne (by decide)).trans Dict.lookup_set_self

theorem withAddress_port : (c.withAddress redis config).lookup "port" =
    if c.port = 0 then config.lookup "port" else some (.number c.port) := by
  unfold withAddress
  simp only
  split
  · exact Dict.lookup_set_of_ne (by decide)
  · exact Dict.lookup_set_self

/-- A timeout that has room becomes seconds. -/
theorem timeout_seconds {name : String} (hname : name ∈ ["connectTimeout", "syncTimeout"])
    (h : config.lookup name = c.setting name) (htimed : c.Timed) :
    ∀ setting, config.lookup name = some setting → ∃ seconds, setting.seconds = .ok seconds := by
  intro setting hsetting
  obtain ⟨o, ho, rfl⟩ := Option.map_eq_some_iff.mp (h.symm.trans hsetting)
  obtain ⟨n, hn, _⟩ := (timed_iff c).mp htimed name hname o ho
  exact ⟨_, seconds_ok_iff.mpr ⟨n, hn, rfl⟩⟩

/-- Where a timeout was read, the seconds are found. -/
theorem timeout_found {timed : Config} {name target : String} (htimed : config.withTimeout name target = .ok timed)
    (h : config.lookup name = c.setting name) (ho : c.queried name = some o) :
    ∃ n, Seconds (decoded o.2) n ∧ timed.lookup target = some (.quotient n 1000) := by
  have hread : config.lookup name = some (.text (decoded o.2)) := by
    rw [h, setting, ho]
    rfl
  obtain ⟨seconds, hseconds, hfound⟩ := (withTimeout_changes htimed).2 _ hread
  obtain ⟨n, hn, rfl⟩ := seconds_ok_iff.mp hseconds
  exact ⟨n, hn, hfound⟩

/-- What redis-py leaves as it is reaches the timeouts as it was read. -/
theorem named_lookup (hwhole : c.Whole) (h : c.arguments redis = .ok config) {name : String}
    (hname : name ∈ ["password", "ssl", "connectTimeout", "syncTimeout"]) :
    ((c.withAddress redis config).withUser c.text).lookup name = c.setting name := by
  have hunknown : redis.parsers name = none := by
    apply redis.unknown
    simp only [List.mem_cons, List.not_mem_nil, or_false] at hname ⊢
    tauto
  have hother : name ≠ "username" ∧ name ≠ "host" ∧ name ≠ "port" := by
    simp only [List.mem_cons, List.not_mem_nil, or_false] at hname
    rcases hname with rfl | rfl | rfl | rfl
    all_goals decide
  rw [withUser_other hother.1, withAddress_other hother.2.1 hother.2.2, arguments_lookup hwhole h hunknown]

theorem parse_exists (haccepted : c.Accepted redis) (hwhole : c.Whole) (h : c.arguments redis = .ok config)
    (htimed : c.Timed) : ∃ parsed, parseConnectionString redis c.text = .ok parsed := by
  obtain ⟨connecting, hconnecting⟩ :=
    @withTimeout_exists ((c.withAddress redis config).withUser c.text) "connectTimeout" "socket_connect_timeout"
      (timeout_seconds (by decide) (named_lookup hwhole h (by decide)) htimed)
  have hsync : connecting.lookup "syncTimeout" = c.setting "syncTimeout" :=
    ((withTimeout_changes hconnecting).1 _ (by decide) (by decide)).trans (named_lookup hwhole h (by decide))
  obtain ⟨timed, hwritten⟩ :=
    @withTimeout_exists connecting "syncTimeout" "socket_timeout" (timeout_seconds (by decide) hsync htimed)
  have hurl : redis.parseUrl (connectionUrl c.text) = .ok (c.withAddress redis config) := by
    rw [parseUrl_eq haccepted hwhole, h]
    rfl
  refine ⟨timed.filter (fun entry => allowedKeys.contains entry.1), ?_⟩
  unfold parseConnectionString
  rw [hurl]
  simp only [bind, Except.bind, hconnecting, hwritten]
  rfl

theorem parse_outcome {parsed : Config} (haccepted : c.Accepted redis) (hwhole : c.Whole)
    (h : c.arguments redis = .ok config) (hparse : parseConnectionString redis c.text = .ok parsed) :
    c.Outcome redis parsed := by
  unfold parseConnectionString at hparse
  obtain ⟨addressed, hurl, hparse⟩ := bind_ok_iff.mp hparse
  obtain ⟨connecting, hconnecting, hparse⟩ := bind_ok_iff.mp hparse
  obtain ⟨timed, htimed, hparse⟩ := bind_ok_iff.mp hparse
  cases pure_ok_iff.mp hparse
  rw [parseUrl_eq haccepted hwhole, h] at hurl
  cases hurl
  have hread : ∀ name ∈ ["password", "ssl", "connectTimeout", "syncTimeout"],
      ((c.withAddress redis config).withUser c.text).lookup name = c.setting name :=
    fun _ hname => named_lookup hwhole h hname
  have hothers := (withTimeout_changes hconnecting).1
  have hrest := (withTimeout_changes htimed).1
  have hkept : ∀ name ∈ allowedKeys, name ≠ "socket_connect_timeout" → name ≠ "socket_timeout" →
      (timed.filter (fun entry => allowedKeys.contains entry.1)).lookup name =
        ((c.withAddress redis config).withUser c.text).lookup name := by
    intro name hname hconnect hsocket
    have hold : name ≠ "connectTimeout" ∧ name ≠ "syncTimeout" := by
      constructor
      all_goals
        rintro rfl
        exact absurd hname (by decide)
    rw [lookup_filter_keys, if_pos (List.contains_iff_mem.mpr hname), hrest name hold.2 hsocket,
      hothers name hold.1 hconnect]
  refine ⟨?_, ?_, ?_, ?_, ?_, ?_, ?_⟩
  · rw [hkept "host" (by decide) (by decide) (by decide), withUser_other (by decide), withAddress_host]
  · rw [hkept "port" (by decide) (by decide) (by decide), withUser_other (by decide), withAddress_port,
      arguments_lookup hwhole h (redis.unknown "port" (by decide))]
  · have huser : (c.withAddress redis config).lookup "username" = c.setting "username" := by
      rw [withAddress_other (by decide) (by decide), arguments_lookup hwhole h (redis.unknown "username" (by decide))]
    rw [hkept "username" (by decide) (by decide) (by decide), withUser_username huser]
  · intro name hname
    have hnames : name ∈ allowedKeys ∧ name ≠ "socket_connect_timeout" ∧ name ≠ "socket_timeout" ∧
        name ∈ ["password", "ssl", "connectTimeout", "syncTimeout"] := by
      simp only [List.mem_cons, List.not_mem_nil, or_false] at hname
      rcases hname with rfl | rfl
      all_goals decide
    rw [hkept name hnames.1 hnames.2.1 hnames.2.2.1, hread name hnames.2.2.2]
  · intro o ho
    obtain ⟨n, hn, hfound⟩ := timeout_found hconnecting (hread "connectTimeout" (by decide)) ho
    refine ⟨n, hn, ?_⟩
    rw [lookup_filter_keys, if_pos (by decide), hrest _ (by decide) (by decide)]
    exact hfound
  · intro o ho
    have hsync : connecting.lookup "syncTimeout" = c.setting "syncTimeout" :=
      (hothers _ (by decide) (by decide)).trans (hread "syncTimeout" (by decide))
    obtain ⟨n, hn, hfound⟩ := timeout_found htimed hsync ho
    refine ⟨n, hn, ?_⟩
    rw [lookup_filter_keys, if_pos (by decide)]
    exact hfound
  · intro entry hentry
    exact List.contains_iff_mem.mp (List.mem_filter.mp hentry).2

/-- A switch is letters. -/
theorem switch_verbatim {value : String} (h : lowered value ∈ ["true".toList, "false".toList]) : Verbatim value := by
  have hsign : ∀ sign : Char, sign.toLower ∉ "true".toList → sign.toLower ∉ "false".toList → sign ∉ value.toList := by
    intro sign htrue hfalse hm
    have hlowered : sign.toLower ∈ lowered value := List.mem_map.mpr ⟨sign, hm, rfl⟩
    rcases List.mem_cons.mp h with he | h
    · exact htrue (he ▸ hlowered)
    · exact hfalse (List.mem_singleton.mp h ▸ hlowered)
  refine ⟨?_, ?_, hsign '+' (by decide) (by decide), hasEscape_of_not_mem (hsign '%' (by decide) (by decide))⟩
  · rintro rfl
    exact absurd h (by decide)
  · intro d hd
    have hne : d ≠ '\t' ∧ d ≠ '\r' ∧ d ≠ '\n' := by
      refine ⟨?_, ?_, ?_⟩
      all_goals
        rintro rfl
        exact hsign _ (by decide) (by decide) hd
    simp [isUnsafe, hne]

/-- A switch counts as on however it is written. -/
theorem switch_on {value : String} (h : c.options.lookup "ssl" = some value) :
    (c.setting "ssl").any Setting.truthy = true := by
  have hgiven : isBlank value = false := isBlank_verbatim (switch_verbatim (c.ssl value h))
  obtain ⟨o, ho⟩ := exists_queried (readKey_name (by decide)) h hgiven
  rw [setting, ho, Option.map_some, Option.any_some]
  exact truthy_decoded (queried_spec ho).2.2

theorem setting_eq_iff (c : ConnectionString) (name : String) :
    c.setting name = (c.options.lookup name).map .text ↔ c.NameKept name := by
  rw [← nameKept_iff, setting]
  cases c.queried name with
  | none => cases c.options.lookup name <;> simp
  | some o => cases c.options.lookup name <;> simp

/-- A timeout that is written is read in seconds. -/
theorem timeout_written {name : String} (hname : name ∈ ["connectTimeout", "syncTimeout"]) {value : String} {n : Nat}
    (hvalue : c.options.lookup name = some value) (hn : decimal value.toList = some n) :
    ∃ o, c.queried name = some o ∧ ∀ m, c.TimeKept name o → Seconds (decoded o.2) m → m = n := by
  have hread : readKey name = name := by
    apply readKey_name
    simp only [List.mem_cons, List.not_mem_nil, or_false] at hname ⊢
    tauto
  obtain ⟨o, ho⟩ := exists_queried hread hvalue (isBlank_verbatim (decimal_verbatim hn))
  refine ⟨o, ho, ?_⟩
  rintro m ⟨k, hk, hwritten⟩ hm
  have hsame := hwritten value hvalue
  rw [hn] at hsame
  rw [Option.some.inj (hm.1.symm.trans hk.1), ← Option.some.inj hsame]
  rfl

theorem Kept.readAs (h : c.Kept redis) (houtcome : c.Outcome redis config) : c.ReadAs config where
  host := by rw [houtcome.host, h.host]
  port := by rw [houtcome.port, if_neg h.port]
  password := by
    rw [houtcome.read "password" (by decide)]
    exact (setting_eq_iff c "password").mpr h.password
  user := by rw [houtcome.username, (userRead_iff c).mpr h.user]
  ssl value hvalue := by
    have htrue : lowered value = "true".toList := by
      rcases List.mem_cons.mp (c.ssl value hvalue) with he | hfalse
      · exact he
      · exact absurd (List.mem_singleton.mp hfalse) (h.ssl value hvalue)
    rw [houtcome.read "ssl" (by decide), switch_on hvalue, htrue, decide_eq_true rfl]
  connectTimeout value n hvalue hn := by
    obtain ⟨o, ho, hsame⟩ := timeout_written (by decide) hvalue hn
    obtain ⟨m, hm, hfound⟩ := houtcome.connectTimeout o ho
    rw [hfound, hsame m ((timed_iff c).mp h.timed _ (by decide) o ho) hm]
  syncTimeout value n hvalue hn := by
    obtain ⟨o, ho, hsame⟩ := timeout_written (by decide) hvalue hn
    obtain ⟨m, hm, hfound⟩ := houtcome.syncTimeout o ho
    rw [hfound, hsame m ((timed_iff c).mp h.timed _ (by decide) o ho) hm]
  allowed := houtcome.allowed

/-- A timeout that is read in seconds and found as it is written is kept. -/
theorem timeKept_of_found {name target : String} {n : Int} (hname : name ∈ ["connectTimeout", "syncTimeout"])
    (hn : Seconds (decoded o.2) n) (hfound : config.lookup target = some (.quotient n 1000))
    (hread : ∀ value milliseconds, c.options.lookup name = some value → decimal value.toList = some milliseconds →
      config.lookup target = some (.quotient milliseconds 1000)) : c.TimeKept name o := by
  refine ⟨n, hn, ?_⟩
  intro value hvalue
  obtain ⟨m, hm⟩ := Option.isSome_iff_exists.mp (c.timeouts name hname value hvalue)
  have hsame := Option.some.inj (hfound.symm.trans (hread value m hvalue hm))
  rw [hm, (Setting.quotient.inj hsame).1]
  rfl

theorem ReadAs.kept (h : c.ReadAs config) (houtcome : c.Outcome redis config) (haccepted : c.Accepted redis)
    (hparsed : c.Parsed redis) : c.Kept redis where
  accepted := haccepted
  host := by
    have hhost := houtcome.host.symm.trans h.host
    exact Setting.text.inj (Option.some.inj hhost)
  port := by
    intro hzero
    have hport := houtcome.port.symm.trans h.port
    rw [if_pos hzero] at hport
    obtain ⟨o, _, hread⟩ := Option.map_eq_some_iff.mp hport
    cases hread
  password := (setting_eq_iff c "password").mp ((houtcome.read "password" (by decide)).symm.trans h.password)
  user := (userRead_iff c).mp (houtcome.username.symm.trans h.user)
  ssl value hvalue hfalse := by
    have hon := h.ssl value hvalue
    rw [houtcome.read "ssl" (by decide), switch_on hvalue, hfalse] at hon
    exact absurd hon (by decide)
  timed := by
    refine (timed_iff c).mpr ?_
    intro name hname o ho
    simp only [List.mem_cons, List.not_mem_nil, or_false] at hname
    rcases hname with rfl | rfl
    · obtain ⟨n, hn, hfound⟩ := houtcome.connectTimeout o ho
      exact timeKept_of_found (by decide) hn hfound h.connectTimeout
    · obtain ⟨n, hn, hfound⟩ := houtcome.syncTimeout o ho
      exact timeKept_of_found (by decide) hn hfound h.syncTimeout
  parsed := hparsed

end Texts

/-- redis-py with ASCII's lower case, and with those of its parsers that read numbers. -/
def numbers : RedisPy where
  library := ⟨asciiRuntime.lower, fun _ => true⟩
  lowers s hne := by
    intro hempty
    change asciiRuntime.lower s = "" at hempty
    rw [asciiLower_eq] at hempty
    have hchars := congrArg String.toList hempty
    rw [String.toList_ofList] at hchars
    exact hne (String.toList_eq_nil_iff.mp (List.map_eq_nil_iff.mp hchars))
  parsers name :=
    if name ∈ ["db", "max_connections", "health_check_interval"] then
      some (fun value => (Setting.text value).toInt.map Setting.number)
    else none
  unknown := by decide

def switchedOn : ConnectionString where
  host := "cache"
  port := 6380
  options := [("password", "s3/cr3t="), ("ssl", "True"), ("user", "admin"), ("connectTimeout", "5000")]
  hostGiven := by decide
  hostChars := List.all_iff_forall_prop.mp (by decide)
  portMax := by decide
  keys := by decide
  keyChars := by decide
  values := by decide
  ssl := by decide
  timeouts := by decide

def switchedOff : ConnectionString where
  host := "cache"
  port := 6380
  options := [("password", "s3+cr3t="), ("ssl", "False")]
  hostGiven := by decide
  hostChars := List.all_iff_forall_prop.mp (by decide)
  portMax := by decide
  keys := by decide
  keyChars := by decide
  values := by decide
  ssl := by decide
  timeouts := by decide

/-- A key that is decoded to another counts as that one. -/
example : (parseConnectionString numbers "cache:6380,pass%77ord=x,password=y").toOption.bind
    (List.lookup "password") = some (.text "x") := by
  decide +kernel

end BlocksGenesis.Cache.ConnectionString
