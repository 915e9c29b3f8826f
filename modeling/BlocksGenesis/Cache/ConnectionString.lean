import BlocksGenesis.Cache.RedisUrl

/-! A connection string, and its URL taken apart. -/

namespace BlocksGenesis.Cache
open Python Python.Url

/-! ## What is written and what is read back -/

/-- What ends a host in a URL, what is removed from every URL, and the signs of an option. -/
def hostSigns : List Char := [',', '=', '/', '?', '#', '@', '[', ']', '\t', '\r', '\n']

def lowered (value : String) : List Char := value.toList.map Char.toLower

/-- A host, a port and options. A switch is on or off in any letter case, a timeout is decimal. -/
structure ConnectionString where
  host : String
  port : Nat
  options : List (String × String)
  hostGiven : host ≠ ""
  hostChars : ∀ d ∈ host.toList, d ∉ hostSigns
  portMax : port ≤ 65535
  keys : (options.map Prod.fst).Nodup
  keyChars : ∀ o ∈ options, ',' ∉ o.1.toList ∧ '=' ∉ o.1.toList
  values : ∀ o ∈ options, ',' ∉ o.2.toList
  ssl : ∀ value, options.lookup "ssl" = some value → lowered value ∈ ["true".toList, "false".toList]
  timeouts : ∀ name ∈ ["connectTimeout", "syncTimeout"], ∀ value, options.lookup name = some value →
    (decimal value.toList).isSome = true

namespace ConnectionString

/-- An address with colons is written in brackets. -/
def hostText (c : ConnectionString) : String := if ':' ∈ c.host.toList then "[" ++ c.host ++ "]" else c.host

def text (c : ConnectionString) : String :=
  c.options.foldl (fun text o => text ++ "," ++ o.1 ++ "=" ++ o.2) (c.hostText ++ ":" ++ Nat.repr c.port)

/-- The user may be written under two names; an empty `username` counts if there is no `user`. -/
def user (c : ConnectionString) : Option String :=
  match c.options.lookup "username" with
  | none => c.options.lookup "user"
  | some username => if username = "" then (c.options.lookup "user").or (some "") else some username

/-- What is claimed of the configuration. -/
structure ReadAs (c : ConnectionString) (config : Config) : Prop where
  host : config.lookup "host" = some (.text c.host)
  port : config.lookup "port" = some (.number c.port)
  password : config.lookup "password" = (c.options.lookup "password").map .text
  user : config.lookup "username" = c.user.map .text
  ssl : ∀ value, c.options.lookup "ssl" = some value →
    (config.lookup "ssl").any Setting.truthy = decide (lowered value = "true".toList)
  connectTimeout : ∀ value milliseconds, c.options.lookup "connectTimeout" = some value →
    decimal value.toList = some milliseconds →
    config.lookup "socket_connect_timeout" = some (.quotient milliseconds 1000)
  syncTimeout : ∀ value milliseconds, c.options.lookup "syncTimeout" = some value →
    decimal value.toList = some milliseconds →
    config.lookup "socket_timeout" = some (.quotient milliseconds 1000)
  allowed : ∀ entry ∈ config, entry.1 ∈ allowedKeys

def ReadBack (redis : RedisPy) (c : ConnectionString) : Prop :=
  ∃ config, parseConnectionString redis c.text = .ok config ∧ c.ReadAs config

/-! ## When it is -/

/-- No option ends the query or its field of it. -/
def Whole (c : ConnectionString) : Prop :=
  ∀ o ∈ c.options, ('#' ∉ o.1.toList ∧ '&' ∉ o.1.toList) ∧ '#' ∉ o.2.toList ∧ '&' ∉ o.2.toList

/-- The value is there, and none of it is removed, read as a space or decoded. -/
def Verbatim (value : String) : Prop :=
  value ≠ "" ∧ (∀ c ∈ value.toList, isUnsafe c = false) ∧ '+' ∉ value.toList ∧ hasEscape value.toList = false

def rstrip (s : String) : String := String.ofList (s.toList.rdropWhile isSpace)

def lstrip (s : String) : String := String.ofList (s.toList.dropWhile isSpace)

def isBlank (value : String) : Bool := (value.toList.filter (fun d => !isUnsafe d)).isEmpty

/-- A key as the query has it: without what is removed, and decoded. -/
def readKey (key : String) : String :=
  String.ofList (unquoteChars (plusToSpace (key.toList.filter (fun d => !isUnsafe d))))

/-- A value as it is read, decoded twice. -/
def decoded (value : String) : String := String.ofList (readValue value.toList)

/-- The first option with a value whose key is read as the name. -/
def queried (c : ConnectionString) (name : String) : Option (String × String) :=
  c.options.find? (fun o => readKey o.1 == name && !isBlank o.2)

/-- The option under the name is the one that is written, and its value is kept; if it is another, then with a
value that is read as the one that is written. -/
def NameKept (c : ConnectionString) (name : String) : Prop :=
  match c.queried name, c.options.lookup name with
  | none, none => True
  | some o, some value => if o.1 = name then Verbatim value else decoded o.2 = value
  | _, _ => False

/-- The first `user` of the text, with the white space around the option left off. -/
def userText (c : ConnectionString) : Option String :=
  (c.options.find? (fun o => lstrip o.1 == "user")).map (fun o => rstrip o.2)

/-- The user is read from the query under `username`, else from the text. -/
def UserKept (c : ConnectionString) : Prop :=
  match c.queried "username" with
  | some o => if o.1 = "username" then Verbatim o.2 else c.user = some (decoded o.2)
  | none => c.userText = c.user

/-- The options that redis-py parses can be parsed. -/
def Parsed (redis : RedisPy) (c : ConnectionString) : Prop :=
  ∀ name o parser, c.queried name = some o → redis.parsers name = some parser →
    ∃ setting, parser (decoded o.2) = .ok setting

/-- A numeral that `int` reads, and a number of milliseconds that a float holds in seconds. -/
def HasRoom (value : String) (milliseconds : Nat) : Prop :=
  value.toList.length ≤ maxStrDigits ∧ milliseconds < floatBound * 1000

/-- A timeout has room. What is read as one under another key is an integer with room, and the timeout that is
written, if one is. -/
def Timed (c : ConnectionString) : Prop :=
  ∀ name ∈ ["connectTimeout", "syncTimeout"], ∀ o, c.queried name = some o →
    if o.1 = name then ∀ milliseconds, decimal o.2.toList = some milliseconds → HasRoom o.2 milliseconds
    else ∃ milliseconds : Int, Python.toInt (decoded o.2) = some milliseconds ∧
      milliseconds.natAbs < floatBound * 1000 ∧
      ∀ value, c.options.lookup name = some value → (decimal value.toList).map Int.ofNat = some milliseconds

/-- What is in brackets is an address, and what is no ASCII brings out no delimiter. -/
def Accepted (redis : RedisPy) (c : ConnectionString) : Prop :=
  needsCheck (c.hostText.toList ++ ':' :: (Nat.repr c.port).toList) = true →
    redis.library.accepts (c.hostText ++ ":" ++ Nat.repr c.port) = true

/-- The host as it is read: in lower case but for a zone, and decoded. -/
def hostRead (redis : RedisPy) (c : ConnectionString) : String :=
  unquote (lowerHost redis.library.lower c.host.toList)

structure Kept (redis : RedisPy) (c : ConnectionString) : Prop where
  accepted : c.Accepted redis
  host : c.hostRead redis = c.host
  port : c.port ≠ 0
  password : c.NameKept "password"
  user : c.UserKept
  ssl : ∀ value, c.options.lookup "ssl" = some value → lowered value ≠ "false".toList
  timed : c.Timed
  parsed : c.Parsed redis

/-! ## The text and its URL -/

section Texts
variable {redis : RedisPy} {c : ConnectionString} {o : String × String}

def netloc (c : ConnectionString) : List Char := c.hostText.toList ++ ':' :: (Nat.repr c.port).toList

def optionChars (o : String × String) : List Char := o.1.toList ++ '=' :: o.2.toList

/-- The option without what is removed from every URL. -/
def field (o : String × String) : List Char :=
  o.1.toList.filter (fun d => !isUnsafe d) ++ '=' :: o.2.toList.filter (fun d => !isUnsafe d)

theorem toList_text (c : ConnectionString) :
    c.text.toList = c.netloc ++ (c.options.map optionChars).flatMap (',' :: ·) := by
  have hfold : ∀ (options : List (String × String)) (start : String),
      (options.foldl (fun text o => text ++ "," ++ o.1 ++ "=" ++ o.2) start).toList =
        start.toList ++ (options.map optionChars).flatMap (',' :: ·) := by
    intro options
    induction options with
    | nil =>
      intro start
      simp
    | cons o options ih =>
      intro start
      rw [List.foldl_cons, ih]
      simp [optionChars]
  rw [text, hfold]
  simp [netloc]

/-- The host and the port hold no sign that ends them. -/
theorem netloc_chars {d : Char} (hd : d ∈ c.netloc) : d ∉ hostSigns ∨ d = '[' ∨ d = ']' := by
  rcases List.mem_append.mp hd with htext | hport
  · unfold hostText at htext
    split at htext
    · simp only [String.toList_append, List.mem_append] at htext
      rcases htext with (hopen | hin) | hclose
      · exact .inr (.inl (List.mem_singleton.mp hopen))
      · exact .inl (c.hostChars d hin)
      · exact .inr (.inr (List.mem_singleton.mp hclose))
    · exact .inl (c.hostChars d htext)
  · left
    rcases List.mem_cons.mp hport with rfl | hdigit
    · decide
    · rw [Nat.toList_repr] at hdigit
      have hall : d.isDigit = true := Nat.isDigit_of_mem_toDigits (by omega) (by omega) hdigit
      intro hsign
      have hnone : hostSigns.all (fun sign => !sign.isDigit) = true := rfl
      have hno := List.all_eq_true.mp hnone d hsign
      rw [hall] at hno
      cases hno

theorem ne_of_netloc {d sign : Char} (hd : d ∈ c.netloc) (hsign : sign ∈ hostSigns)
    (hbracket : sign ≠ '[' ∧ sign ≠ ']') : d ≠ sign := by
  rintro rfl
  rcases netloc_chars hd with hnot | hopen | hclose
  · exact hnot hsign
  · exact hbracket.1 hopen
  · exact hbracket.2 hclose

theorem netloc_signs {d : Char} (hd : d ∈ c.netloc) : isDelimiter d = false ∧ isUnsafe d = false := by
  have hne : ∀ sign ∈ partSigns, d ≠ sign := by
    intro sign hsign
    have hall : partSigns.all (fun sign => hostSigns.contains sign && sign != '[' && sign != ']') = true := rfl
    have hends := List.all_eq_true.mp hall sign hsign
    simp only [Bool.and_eq_true, List.contains_iff_mem, bne_iff_ne] at hends
    exact ne_of_netloc hd hends.1.1 ⟨hends.1.2, hends.2⟩
  simp [partSigns] at hne
  simp [isDelimiter, isUnsafe, hne]

theorem isSpace_of_isUnsafe {d : Char} (h : isUnsafe d = true) : isSpace d = true := by
  simp only [isUnsafe, Bool.or_eq_true, beq_iff_eq] at h
  rcases h with (rfl | rfl) | rfl
  all_goals decide

theorem comma_not_mem (ho : o ∈ c.options) : ',' ∉ optionChars o := by
  intro hm
  rcases List.mem_append.mp hm with hkey | hrest
  · exact (c.keyChars o ho).1 hkey
  · rcases List.mem_cons.mp hrest with heq | hvalue
    · exact absurd heq (by decide)
    · exact c.values o ho hvalue

/-- What the URL has after the host and the port. -/
def urlTail (sep : Char) (texts : List (List Char)) : List Char :=
  match texts with
  | [] => []
  | first :: more => first ++ more.flatMap (sep :: ·)

theorem before_text (c : ConnectionString) : before ',' c.text = String.ofList c.netloc := by
  have hnetloc : ∀ d ∈ c.netloc, (d != ',') = true :=
    fun d hd => bne_iff_ne.mpr (ne_of_netloc hd (by decide) (by decide))
  have hrest : ((c.options.map optionChars).flatMap (',' :: ·)).takeWhile (· != ',') = [] := by
    cases c.options.map optionChars with
    | nil => rfl
    | cons first more => simp
  rw [before, toList_text, List.takeWhile_append_of_pos hnetloc, hrest, List.append_nil]

theorem after_text (c : ConnectionString) :
    after ',' c.text = String.ofList (urlTail ',' (c.options.map optionChars)) := by
  have hnetloc : ∀ d ∈ c.netloc, (d != ',') = true :=
    fun d hd => bne_iff_ne.mpr (ne_of_netloc hd (by decide) (by decide))
  rw [after, toList_text, List.dropWhile_append_of_pos hnetloc]
  cases c.options.map optionChars with
  | nil => rfl
  | cons first more => simp [urlTail]

theorem replaced_of_not_mem {cs : List Char} (h : ',' ∉ cs) :
    cs.flatMap (fun d => if d == ',' then ['&'] else [d]) = cs := by
  induction cs with
  | nil => rfl
  | cons d cs ih =>
    have hd : (d == ',') = false := beq_eq_false_iff_ne.mpr (fun he => h (he ▸ List.mem_cons_self))
    rw [List.flatMap_cons, hd, ih (fun hm => h (List.mem_cons_of_mem _ hm))]
    rfl

theorem replaced_tail {texts : List (List Char)} (h : ∀ cs ∈ texts, ',' ∉ cs) :
    (urlTail ',' texts).flatMap (fun d => if d == ',' then ['&'] else [d]) = urlTail '&' texts := by
  have hmore : ∀ more : List (List Char), (∀ cs ∈ more, ',' ∉ cs) →
      (more.flatMap (',' :: ·)).flatMap (fun d => if d == ',' then ['&'] else [d]) =
        more.flatMap ('&' :: ·) := by
    intro more hall
    induction more with
    | nil => rfl
    | cons cs more ih =>
      rw [List.flatMap_cons, List.flatMap_append, ih (fun cs hm => hall cs (List.mem_cons_of_mem _ hm)),
        List.flatMap_cons, replaced_of_not_mem (hall cs List.mem_cons_self)]
      rfl
  cases texts with
  | nil => rfl
  | cons first more =>
    rw [urlTail, List.flatMap_append, replaced_of_not_mem (h first List.mem_cons_self),
      hmore more (fun cs hm => h cs (List.mem_cons_of_mem _ hm)), urlTail]

/-- The query is the options, if there are any. -/
def queryPart (texts : List (List Char)) : List Char :=
  if (urlTail '&' texts).isEmpty then [] else '/' :: '?' :: urlTail '&' texts

theorem toList_connectionUrl (c : ConnectionString) :
    (connectionUrl c.text).toList = "redis://".toList ++ (c.netloc ++ queryPart (c.options.map optionChars)) := by
  have hcommas : ∀ cs ∈ c.options.map optionChars, ',' ∉ cs := by
    intro cs hcs
    obtain ⟨o, ho, rfl⟩ := List.mem_map.mp hcs
    exact comma_not_mem ho
  have hquery : replaceChar ',' "&" (after ',' c.text) =
      String.ofList (urlTail '&' (c.options.map optionChars)) := by
    rw [replaceChar, after_text, String.toList_ofList, String.toList_ofList, replaced_tail hcommas]
  have hempty : (String.ofList (urlTail '&' (c.options.map optionChars))).isEmpty =
      (urlTail '&' (c.options.map optionChars)).isEmpty := by
    rw [Bool.eq_iff_iff, String.isEmpty_iff, List.isEmpty_iff, ← String.toList_inj, String.toList_ofList]
    rfl
  unfold connectionUrl queryPart
  rw [before_text, hquery]
  simp only [hempty]
  split
  · simp
  · simp

theorem field_eq (o : String × String) : (optionChars o).filter (fun d => !isUnsafe d) = field o := by
  unfold optionChars
  rw [List.filter_append, List.filter_cons_of_pos (by decide)]
  rfl

theorem filter_tail {texts : List (List Char)} (p : Char → Bool) (hp : p '&' = true) :
    (urlTail '&' texts).filter p = urlTail '&' (texts.map (fun cs => cs.filter p)) := by
  cases texts with
  | nil => rfl
  | cons first more =>
    have hmore : (more.flatMap ('&' :: ·)).filter p = (more.map (fun cs => cs.filter p)).flatMap ('&' :: ·) := by
      induction more with
      | nil => rfl
      | cons cs more ih =>
        rw [List.flatMap_cons, List.filter_append, List.filter_cons_of_pos hp, ih]
        rfl
    rw [urlTail, List.filter_append, hmore]
    rfl

def fields (c : ConnectionString) : List (List Char) := c.options.map field

/-- The query is there or not, whatever is removed from it. -/
theorem isEmpty_tail (c : ConnectionString) :
    (urlTail '&' (c.options.map optionChars)).isEmpty = (urlTail '&' c.fields).isEmpty := by
  unfold fields
  cases c.options with
  | nil => rfl
  | cons o options =>
    have hgiven : ∀ (key value more : List Char), (key ++ '=' :: value ++ more).isEmpty = false := by
      intro key value more
      simp
    simp only [urlTail, List.map_cons, optionChars, field, hgiven]

theorem cleaned_url (c : ConnectionString) : cleaned (connectionUrl c.text).toList =
    "redis://".toList ++ (c.netloc ++ queryPart c.fields) := by
  have hstart : ("redis://".toList ++ (c.netloc ++ queryPart (c.options.map optionChars))).dropWhile isC0OrSpace =
      "redis://".toList ++ (c.netloc ++ queryPart (c.options.map optionChars)) := rfl
  have hscheme : "redis://".toList.filter (fun d => !isUnsafe d) = "redis://".toList := by decide
  have hnetloc : c.netloc.filter (fun d => !isUnsafe d) = c.netloc := by
    rw [List.filter_eq_self]
    intro d hd
    rw [(netloc_signs hd).2]
    rfl
  have hfields : (c.options.map optionChars).map (fun cs => cs.filter (fun d => !isUnsafe d)) = c.fields := by
    rw [List.map_map]
    exact List.map_congr_left (fun o _ => field_eq o)
  have hquery : (queryPart (c.options.map optionChars)).filter (fun d => !isUnsafe d) = queryPart c.fields := by
    unfold queryPart
    rw [isEmpty_tail]
    split
    · rfl
    · rw [List.filter_cons_of_pos (by decide), List.filter_cons_of_pos (by decide), filter_tail _ (by decide), hfields]
  rw [cleaned, toList_connectionUrl, hstart, List.filter_append, List.filter_append, hscheme, hnetloc, hquery]

theorem splitScheme_url (rest : List Char) :
    splitScheme ("redis://".toList ++ rest) = ("redis".toList, '/' :: '/' :: rest) := by
  unfold splitScheme
  simp [isSchemeChar]

theorem rest_url (c : ConnectionString) : splitScheme (cleaned (connectionUrl c.text).toList) =
    ("redis".toList, '/' :: '/' :: (c.netloc ++ queryPart c.fields)) := by
  rw [cleaned_url, splitScheme_url]

theorem netloc_taken (c : ConnectionString) :
    (c.netloc ++ queryPart c.fields).takeWhile (fun d => !isDelimiter d) = c.netloc := by
  have hall : ∀ d ∈ c.netloc, (!isDelimiter d) = true := by
    intro d hd
    rw [(netloc_signs hd).1]
    rfl
  have hrest : (queryPart c.fields).takeWhile (fun d => !isDelimiter d) = [] := by
    unfold queryPart
    split
    · rfl
    · rw [List.takeWhile_cons_of_neg (by decide)]
  rw [List.takeWhile_append_of_pos hall, hrest, List.append_nil]

theorem netloc_contains {sign : Char} (hsign : sign ∈ hostSigns) (hbracket : sign ≠ '[' ∧ sign ≠ ']') :
    c.netloc.contains sign = false := by
  have hnot : sign ∉ c.netloc := fun hm => ne_of_netloc hm hsign hbracket rfl
  simpa using hnot

theorem host_ne {d sign : Char} (hd : d ∈ c.host.toList) (hsign : sign ∈ hostSigns) : d ≠ sign := by
  rintro rfl
  exact c.hostChars d hd hsign

/-- The netloc is the host, in brackets or not, and the port. -/
theorem netloc_cases (c : ConnectionString) :
    ':' ∈ c.host.toList ∧ c.netloc = '[' :: (c.host.toList ++ ']' :: ':' :: Nat.toDigits 10 c.port) ∨
      ':' ∉ c.host.toList ∧ c.netloc = c.host.toList ++ ':' :: Nat.toDigits 10 c.port := by
  unfold netloc hostText
  rw [Nat.toList_repr]
  by_cases hcolon : ':' ∈ c.host.toList
  · left
    simp [hcolon]
  · right
    simp [hcolon]

/-- There are brackets if the host has a colon, and they are two. -/
theorem netloc_brackets (c : ConnectionString) : c.netloc.contains '[' = decide (':' ∈ c.host.toList) ∧
    c.netloc.contains ']' = decide (':' ∈ c.host.toList) := by
  have hhost : ∀ sign ∈ hostSigns, sign ∉ c.host.toList := fun sign hsign hm => host_ne hm hsign rfl
  have hdigits : ∀ sign : Char, sign.isDigit = false → sign ∉ Nat.toDigits 10 c.port := by
    intro sign hsign hm
    have hdigit : sign.isDigit = true := Nat.isDigit_of_mem_toDigits (by omega) (by omega) hm
    exact absurd (hsign.symm.trans hdigit) Bool.false_ne_true
  rcases c.netloc_cases with ⟨hcolon, he⟩ | ⟨hcolon, he⟩
  · simp [he, hcolon]
  · simp [he, hcolon, hhost '[' (by decide), hhost ']' (by decide), hdigits '[' (by decide), hdigits ']' (by decide)]

theorem netloc_ofList (c : ConnectionString) : String.ofList c.netloc = c.hostText ++ ":" ++ Nat.repr c.port := by
  rw [← String.toList_inj, String.toList_ofList]
  simp [netloc]

theorem urlsplit_url (redis : RedisPy) (c : ConnectionString) :
    (c.Accepted redis → urlsplit redis.library (connectionUrl c.text) = .ok ⟨"redis".toList, c.netloc⟩) ∧
      (¬ c.Accepted redis → ∃ e, urlsplit redis.library (connectionUrl c.text) = .error e) := by
  have hnetloc : netlocOf ('/' :: '/' :: (c.netloc ++ queryPart c.fields)) = c.netloc := netloc_taken c
  unfold urlsplit Accepted
  rw [rest_url]
  simp only [hnetloc, (netloc_brackets c).1, (netloc_brackets c).2, netloc_ofList, bne_self_eq_false,
    Bool.false_eq_true, if_false]
  have hcheck : needsCheck (c.hostText.toList ++ ':' :: (Nat.repr c.port).toList) = needsCheck c.netloc := rfl
  rw [hcheck]
  cases needsCheck c.netloc with
  | false => simp
  | true => cases redis.library.accepts (c.hostText ++ ":" ++ Nat.repr c.port) <;> simp

theorem mem_urlTail {sep d : Char} {texts : List (List Char)} (h : d ∈ urlTail sep texts) :
    d = sep ∨ ∃ cs ∈ texts, d ∈ cs := by
  cases texts with
  | nil => cases h
  | cons first more =>
    rcases List.mem_append.mp h with hfirst | hmore
    · exact .inr ⟨first, List.mem_cons_self, hfirst⟩
    · obtain ⟨cs, hcs, hd⟩ := List.mem_flatMap.mp hmore
      rcases List.mem_cons.mp hd with rfl | hd
      · exact .inl rfl
      · exact .inr ⟨cs, List.mem_cons_of_mem _ hcs, hd⟩

/-- A sign that the option has not is in no field, unless it is that of a field. -/
theorem not_mem_field {sign : Char} (hequals : sign ≠ '=') (hkey : sign ∉ o.1.toList) (hvalue : sign ∉ o.2.toList) :
    sign ∉ field o := by
  intro hm
  rcases List.mem_append.mp hm with hin | hrest
  · exact hkey (List.mem_of_mem_filter hin)
  · rcases List.mem_cons.mp hrest with heq | hin
    · exact hequals heq
    · exact hvalue (List.mem_of_mem_filter hin)

/-- Nothing cuts the query off, and the path names no database. -/
theorem pathAndQuery_url (hwhole : c.Whole) :
    ∃ path, pathAndQuery ('/' :: '/' :: (c.netloc ++ queryPart c.fields)) = (path, urlTail '&' c.fields) ∧
      ∀ config : Config, config.setDb path = config := by
  have hall : ∀ d ∈ c.netloc, (!isDelimiter d) = true := by
    intro d hd
    rw [(netloc_signs hd).1]
    rfl
  have hrest : (c.netloc ++ queryPart c.fields).dropWhile (fun d => !isDelimiter d) = queryPart c.fields := by
    rw [List.dropWhile_append_of_pos hall]
    unfold queryPart
    split
    · rfl
    · rw [List.dropWhile_cons_of_neg (by decide)]
  have hsign : ∀ d ∈ urlTail '&' c.fields, (d != '#') = true := by
    intro d hd
    rw [bne_iff_ne]
    rintro rfl
    rcases mem_urlTail hd with heq | ⟨cs, hcs, hm⟩
    · exact absurd heq (by decide)
    · obtain ⟨o, ho, rfl⟩ := List.mem_map.mp hcs
      exact not_mem_field (by decide) (hwhole o ho).1.1 (hwhole o ho).2.1 hm
  have hwholeQuery : (queryPart c.fields).takeWhile (· != '#') = queryPart c.fields := by
    rw [List.takeWhile_eq_self_iff]
    intro d hd
    unfold queryPart at hd
    split at hd
    · cases hd
    · rcases List.mem_cons.mp hd with rfl | hd
      · decide
      · rcases List.mem_cons.mp hd with rfl | hd
        · decide
        · exact hsign d hd
  have htarget : pathAndQuery ('/' :: '/' :: (c.netloc ++ queryPart c.fields)) =
      ((queryPart c.fields).takeWhile (· != '?'), ((queryPart c.fields).dropWhile (· != '?')).drop 1) := by
    unfold pathAndQuery
    simp only [List.take_succ_cons, List.take_zero, if_true, List.drop_succ_cons, List.drop_zero, hrest, hwholeQuery]
  rw [htarget]
  unfold queryPart
  split
  · rename_i hempty
    rw [List.isEmpty_iff] at hempty
    rw [hempty]
    exact ⟨[], rfl, fun _ => rfl⟩
  · refine ⟨['/'], rfl, ?_⟩
    intro config
    have hnone : Python.toInt (String.ofList ((unquoteChars ['/']).filter (· != '/'))) = none := by decide
    unfold Config.setDb
    rw [hnone]
    split <;> rfl

/-! ## The fields of the query -/

/-- What `parse_qs` reads of a value; none of a blank one. -/
def queriedValue (value : String) : Option String :=
  if isBlank value then none
  else some (String.ofList (unquoteChars (plusToSpace (value.toList.filter (fun d => !isUnsafe d)))))

theorem parseField_field (ho : o ∈ c.options) :
    parseField (field o) = (queriedValue o.2).map (fun value => (readKey o.1, value)) := by
  have hkey : '=' ∉ o.1.toList.filter (fun d => !isUnsafe d) :=
    fun hm => (c.keyChars o ho).2 (List.mem_of_mem_filter hm)
  rw [field, parseField_eq hkey]
  unfold queriedValue isBlank
  split <;> rfl

theorem fields_parsed (hwhole : c.Whole) : (splitChars '&' (urlTail '&' c.fields)).filterMap parseField =
    c.options.filterMap (fun o => (queriedValue o.2).map (fun value => (readKey o.1, value))) := by
  have hsign : ∀ cs ∈ c.fields, '&' ∉ cs := by
    intro cs hcs
    obtain ⟨o, ho, rfl⟩ := List.mem_map.mp hcs
    exact not_mem_field (by decide) (hwhole o ho).1.2 (hwhole o ho).2.2
  have hfields : c.fields.filterMap parseField =
      c.options.filterMap (fun o => (queriedValue o.2).map (fun value => (readKey o.1, value))) := by
    unfold fields
    rw [List.filterMap_map]
    exact List.filterMap_congr (fun o ho => parseField_field ho)
  rw [← hfields]
  cases hc : c.fields with
  | nil => rfl
  | cons first more =>
    rw [hc] at hsign
    rw [urlTail, splitChars_flatMap (hsign first List.mem_cons_self)
      (fun cs hm => hsign cs (List.mem_cons_of_mem _ hm))]

/-- Under a name, the first option with a value counts. -/
theorem lookup_fields (options : List (String × String)) (name : String) :
    (options.filterMap (fun o => (queriedValue o.2).map (fun value => (readKey o.1, value)))).lookup name =
      (options.find? (fun o => readKey o.1 == name && !isBlank o.2)).bind (fun o => queriedValue o.2) := by
  induction options with
  | nil => rfl
  | cons o options ih =>
    cases hblank : isBlank o.2 with
    | true =>
      have hvalue : queriedValue o.2 = none := by simp only [queriedValue, hblank, if_true]
      rw [List.filterMap_cons, hvalue, Option.map_none, ih, List.find?_cons, hblank, Bool.not_true, Bool.and_false]
    | false =>
      obtain ⟨value, hvalue⟩ : ∃ value, queriedValue o.2 = some value := by
        simp only [queriedValue, hblank, Bool.false_eq_true, if_false, Option.some.injEq, exists_eq']
      rw [List.filterMap_cons, hvalue, Option.map_some, List.find?_cons, hblank, Bool.not_false, Bool.and_true]
      by_cases hname : readKey o.1 = name
      · rw [hname, List.lookup_cons_self, beq_self_eq_true]
        exact hvalue.symm
      · rw [beq_eq_false_iff_ne.mpr hname, Dict.lookup_cons_of_ne _ (fun he => hname he.symm), ih]

/-- The first value of a name is that of the first option read so. -/
theorem first_value (hwhole : c.Whole) (name : String) :
    ((parseQs (urlTail '&' c.fields)).lookup name).map (fun values => values.headD "") =
      (c.queried name).bind (fun o => queriedValue o.2) := by
  rw [first_parseQs, fields_parsed hwhole]
  exact lookup_fields c.options name

/-! ## The address -/

theorem hostinfo_netloc (c : ConnectionString) : hostinfo c.netloc = c.netloc := by
  apply List.rtakeWhile_eq_self_iff.mpr
  intro d hd
  exact bne_iff_ne.mpr (ne_of_netloc hd (by decide) (by decide))

theorem hostChars_netloc (c : ConnectionString) : Url.hostChars c.netloc = c.host.toList := by
  have hclose : ∀ d ∈ c.host.toList, (d != ']') = true := fun d hd => bne_iff_ne.mpr (host_ne hd (by decide))
  unfold Url.hostChars
  simp only [hostinfo_netloc, (netloc_brackets c).1, decide_eq_true_eq]
  rcases c.netloc_cases with ⟨hcolon, he⟩ | ⟨hcolon, he⟩
  · rw [if_pos hcolon, he, List.dropWhile_cons_of_neg (by decide), List.drop_succ_cons, List.drop_zero,
      List.takeWhile_append_of_pos hclose, List.takeWhile_cons_of_neg (by decide), List.append_nil]
  · have hname : ∀ d ∈ c.host.toList, (d != ':') = true :=
      fun d hd => bne_iff_ne.mpr (fun hsame => hcolon (hsame ▸ hd))
    rw [if_neg hcolon, he, List.takeWhile_append_of_pos hname, List.takeWhile_cons_of_neg (by decide), List.append_nil]

theorem portChars_netloc (c : ConnectionString) : portChars c.netloc = Nat.toDigits 10 c.port := by
  have hclose : ∀ d ∈ c.host.toList, (d != ']') = true := fun d hd => bne_iff_ne.mpr (host_ne hd (by decide))
  unfold portChars
  simp only [hostinfo_netloc, (netloc_brackets c).1, decide_eq_true_eq]
  rcases c.netloc_cases with ⟨hcolon, he⟩ | ⟨hcolon, he⟩
  · rw [if_pos hcolon, he, List.dropWhile_cons_of_pos (by decide), List.dropWhile_append_of_pos hclose,
      List.dropWhile_cons_of_neg (by decide), List.dropWhile_cons_of_pos (by decide),
      List.dropWhile_cons_of_neg (by decide), List.drop_succ_cons, List.drop_zero]
  · have hname : ∀ d ∈ c.host.toList, (d != ':') = true :=
      fun d hd => bne_iff_ne.mpr (fun hsame => hcolon (hsame ▸ hd))
    rw [if_neg hcolon, he, List.dropWhile_append_of_pos hname, List.dropWhile_cons_of_neg (by decide),
      List.drop_succ_cons, List.drop_zero]

theorem portNumber_netloc (c : ConnectionString) : portNumber c.netloc = .ok c.port := by
  have hgiven : (Nat.toDigits 10 c.port).isEmpty = false := by
    rw [List.isEmpty_eq_false_iff]
    exact Nat.toDigits_ne_nil
  have hdigits : (Nat.toDigits 10 c.port).all Char.isDigit = true := by
    rw [List.all_eq_true]
    intro d hd
    exact Nat.isDigit_of_mem_toDigits (by omega) (by omega) hd
  have hdecimal : decimal (Nat.toDigits 10 c.port) = some c.port := by
    unfold decimal
    rw [hgiven, hdigits, Nat.ofDigitChars_ten_toDigits]
    rfl
  have hfew : ¬ maxStrDigits < (Nat.toDigits 10 c.port).length := by
    have hlength : (Nat.toDigits 10 c.port).length ≤ 5 :=
      (Nat.length_toDigits_le_iff (by decide) (by decide)).mpr (by have := c.portMax; omega)
    have hmost : 5 ≤ maxStrDigits := by decide
    omega
  unfold portNumber
  rw [portChars_netloc]
  simp only [hgiven, hdecimal, Bool.false_eq_true, if_false, if_neg hfew, if_pos c.portMax]

theorem lowerHost_ne_nil (redis : RedisPy) (c : ConnectionString) :
    (lowerHost redis.library.lower c.host.toList).toList ≠ [] := by
  unfold lowerHost
  rw [String.toList_append, String.toList_ofList]
  intro hnil
  obtain ⟨hname, hzone⟩ := List.append_eq_nil_iff.mp hnil
  have hall : c.host.toList.takeWhile (· != '%') = c.host.toList := by
    have hsplit := List.takeWhile_append_dropWhile (p := (· != '%')) (l := c.host.toList)
    rwa [hzone, List.append_nil] at hsplit
  rw [hall, String.ofList_toList] at hname
  exact redis.lowers c.host c.hostGiven (String.toList_eq_nil_iff.mp hname)

/-- The settings of the address, over those of the query. -/
def withAddress (redis : RedisPy) (c : ConnectionString) (config : Config) : Config :=
  let config := config.set "host" (.text (c.hostRead redis))
  if c.port = 0 then config else config.set "port" (.number c.port)

def arguments (redis : RedisPy) (c : ConnectionString) : Except Exc Config :=
  (parseQs (urlTail '&' c.fields)).mapM (fun entry => do return (entry.1, ← redis.queryArgument entry.1 entry.2))

theorem parseUrl_parts {url : String} {parts : SplitResult} {path query : List Char}
    (hparts : urlsplit redis.library url = .ok parts)
    (htarget : pathAndQuery (splitScheme (cleaned url.toList)).2 = (path, query)) :
    redis.parseUrl url = redis.settings parts.netloc path query := by
  unfold RedisPy.parseUrl
  rw [hparts, htarget]
  rfl

theorem parseUrl_eq (haccepted : c.Accepted redis) (hwhole : c.Whole) :
    redis.parseUrl (connectionUrl c.text) = (c.arguments redis).map (c.withAddress redis) := by
  obtain ⟨path, hpath, hdb⟩ := pathAndQuery_url hwhole
  have huser : userinfo c.netloc = ([], []) := by
    unfold userinfo
    rw [netloc_contains (by decide) (by decide)]
    rfl
  have hhost : ∀ config : Config, config.setGiven "host" (lowerHost redis.library.lower c.host.toList).toList =
      config.set "host" (.text (c.hostRead redis)) := by
    intro config
    unfold Config.setGiven
    rw [List.isEmpty_eq_false_iff.mpr (lowerHost_ne_nil redis c)]
    rfl
  have hnone : ∀ (config : Config) (name : String), config.setGiven name [] = config := fun _ _ => rfl
  have htarget : pathAndQuery (splitScheme (cleaned (connectionUrl c.text).toList)).2 =
      (path, urlTail '&' c.fields) := by
    rw [rest_url]
    exact hpath
  rw [parseUrl_parts ((urlsplit_url redis c).1 haccepted) htarget]
  unfold RedisPy.settings
  change (c.arguments redis >>= fun _ => _) = _
  cases c.arguments redis with
  | error e => rfl
  | ok config =>
    simp only [bind, Except.bind, huser, hnone, hostChars_netloc, hhost, portNumber_netloc, hdb]
    rfl

end Texts

end ConnectionString

end BlocksGenesis.Cache
