import AuthApi.Model.Sentry

/-! # What leaves for Sentry

An event that is sent has no user, no cookies, no body and no sensitive header, in either representation of the
headers. Everything else stays as it was and where it was, and a second pass finds nothing to do.
-/

namespace AuthApi

open Relational OrderedDict

/-- The name is one of the sensitive ones, in any letter case. -/
def SensitiveName (name : String) : Prop := ∃ sensitive ∈ SENSITIVE_HEADERS, lower name = lower sensitive

/-- The name of an item of a header list: the text it begins with. -/
def Value.headerName? : Value → Option String
  | .list (.str name :: _) => some name
  | .tuple (.str name :: _) => some name
  | _ => Option.none

section Names

variable (isPrintable : Char → Bool)

theorem sensitiveName_iff {name : String} : SensitiveName name ↔ lower name ∈ SENSITIVE_HEADERS := by
  have lowered : ∀ sensitive ∈ SENSITIVE_HEADERS, lower sensitive = sensitive := by decide
  constructor
  · rintro ⟨sensitive, member, same⟩
    rw [same, lowered sensitive member]
    exact member
  · exact fun member => ⟨lower name, member, (lowered _ member).symm⟩

instance (name : String) : Decidable (SensitiveName name) := decidable_of_iff _ sensitiveName_iff.symm

/-- The first characters a sensitive name may have. -/
def opensSensitive (c : Char) : Bool := (lowerChar c).head? ∈ [some 'a', some 'c', some 'p', some 's']

/-- A sensitive text begins with one of these characters. -/
theorem opens_of_sensitive {text : String} {first : Char} {rest : List Char} (shape : text.toList = first :: rest)
    (sensitive : lower text ∈ SENSITIVE_HEADERS) : opensSensitive first = true := by
  have letters : ∀ name ∈ SENSITIVE_HEADERS,
      name.toList.head? ∈ [some 'a', some 'c', some 'p', some 's'] := by decide
  have opening := letters _ sensitive
  have nonempty : lowerChar first ≠ [] := by
    unfold lowerChar
    split
    · simp
    · split <;> simp
  obtain ⟨head, tail, lowered⟩ := List.exists_cons_of_ne_nil nonempty
  rw [lower, String.toList_ofList, shape, List.flatMap_cons, lowered] at opening
  rw [opensSensitive, lowered]
  exact decide_eq_true opening

theorem digit_harmless {c : Char} (digit : c.isDigit = true) : opensSensitive c = false := by
  have digits : ∀ n < 58, 48 ≤ n → opensSensitive (Char.ofNat n) = false := by decide
  have bounds : 48 ≤ c.toNat ∧ c.toNat ≤ 57 := by
    simpa [Char.isDigit, UInt32.le_iff_toNat_le] using digit
  have harmless := digits c.toNat (by omega) bounds.1
  rwa [Char.ofNat_toNat] at harmless

/-- A number in decimal begins with a digit, or with a sign. -/
theorem int_repr_opens (value : ℤ) :
    ∃ first rest, (toString value).toList = first :: rest ∧ opensSensitive first = false := by
  have natural (n : ℕ) : ∃ first rest, n.repr.toList = first :: rest ∧ opensSensitive first = false := by
    rw [Nat.toList_repr]
    obtain ⟨first, rest, shape⟩ := List.exists_cons_of_ne_nil (Nat.toDigits_ne_nil (n := n) (b := 10))
    have digit : first.isDigit = true :=
      Nat.isDigit_of_mem_toDigits (b := 10) (n := n) (by decide) (by decide) (shape ▸ List.mem_cons_self)
    exact ⟨first, rest, shape, digit_harmless digit⟩
  rw [Int.toString_eq_repr, Int.repr_eq_if]
  split
  · exact natural _
  · rw [String.toList_append]
    exact ⟨'-', _, rfl, by decide⟩

/-- Only a text can be written like a sensitive name. -/
theorem repr_harmless {value : Value} (other : ∀ text, value ≠ .str text) :
    lower (value.repr isPrintable) ∉ SENSITIVE_HEADERS := by
  have harmless {text : String}
      (opens : ∃ first rest, text.toList = first :: rest ∧ opensSensitive first = false) :
      lower text ∉ SENSITIVE_HEADERS := by
    obtain ⟨first, rest, shape, plain⟩ := opens
    intro sensitive
    rw [opens_of_sensitive shape sensitive] at plain
    cases plain
  apply harmless
  cases value with
  | none =>
    rw [Value.repr]
    exact ⟨'N', _, rfl, by decide⟩
  | bool value =>
    rw [Value.repr]
    cases value with
    | false => exact ⟨'F', _, rfl, by decide⟩
    | true => exact ⟨'T', _, rfl, by decide⟩
  | int value =>
    rw [Value.repr]
    exact int_repr_opens value
  | float value =>
    rw [Value.repr]
    obtain ⟨first, rest, shape, digit | sign⟩ := value.numeric
    · exact ⟨first, rest, shape, digit_harmless digit⟩
    · refine ⟨first, rest, shape, ?_⟩
      simp only [List.mem_cons, List.not_mem_nil, or_false] at sign
      rcases sign with rfl | rfl | rfl <;> decide
  | str text => exact absurd rfl (other text)
  | list items =>
    rw [Value.repr, String.toList_append, String.toList_append]
    exact ⟨'[', _, rfl, by decide⟩
  | tuple items =>
    rw [Value.repr, String.toList_append, String.toList_append]
    exact ⟨'(', _, rfl, by decide⟩
  | dict entries =>
    rw [Value.repr, String.toList_append, String.toList_append]
    exact ⟨Char.ofNat 0x7b, _, rfl, by decide⟩

/-- The items that are left out are those with a sensitive name. -/
theorem isSensitiveHeader_iff {header : Value} :
    isSensitiveHeader isPrintable header = true ↔
      ∃ name, header.headerName? = some name ∧ SensitiveName name := by
  have named {name : Value} : lower (name.toStr isPrintable) ∈ SENSITIVE_HEADERS ↔
      ∃ text, name = .str text ∧ SensitiveName text := by
    constructor
    · intro sensitive
      by_cases text : ∃ text, name = .str text
      · obtain ⟨text, rfl⟩ := text
        exact ⟨text, rfl, sensitiveName_iff.mpr sensitive⟩
      · simp only [not_exists] at text
        have written : name.toStr isPrintable = name.repr isPrintable := by
          cases name with
          | str given => exact absurd rfl (text given)
          | _ => rfl
        rw [written] at sensitive
        exact absurd sensitive (repr_harmless isPrintable text)
    · rintro ⟨text, rfl, sensitive⟩
      exact sensitiveName_iff.mp sensitive
  cases header with
  | list items =>
    cases items with
    | nil => simp [isSensitiveHeader, Value.headerName?]
    | cons name rest =>
      rw [isSensitiveHeader, decide_eq_true_iff, named]
      cases name <;> simp [Value.headerName?]
  | tuple items =>
    cases items with
    | nil => simp [isSensitiveHeader, Value.headerName?]
    | cons name rest =>
      rw [isSensitiveHeader, decide_eq_true_iff, named]
      cases name <;> simp [Value.headerName?]
  | _ => simp [isSensitiveHeader, Value.headerName?]

theorem isSensitiveHeader_eq (header : Value) :
    (!isSensitiveHeader isPrintable header) = decide (∀ name ∈ header.headerName?, ¬ SensitiveName name) := by
  rw [Bool.eq_iff_iff, Bool.not_eq_true', decide_eq_true_iff, ← Bool.not_eq_true, isSensitiveHeader_iff]
  simp

end Names

theorem popSensitive_eq (headers : Dict) :
    popSensitive headers = headers.filter fun header => !decide (SensitiveName header.1) := by
  rw [popSensitive, foldl_pop_keys]
  apply List.filter_congr
  intro header _
  simp only [sensitiveName_iff]

/-- What scrubbing does to a request. -/
structure RequestScrubbed (request scrubbed : Dict) : Prop where
  keys_eq : keys scrubbed = (keys request).filter fun key => key ∉ ["cookies", "data"]
  others : (scrubbed.filter fun entry => entry.1 ≠ "headers") =
    request.filter fun entry => entry.1 ∉ ["cookies", "data", "headers"]
  headers : get? scrubbed "headers" = match get? request "headers" with
    | some (.dict headers) => some (.dict (headers.filter fun header => ¬ SensitiveName header.1))
    | some (.list headers) => some (.list
        (headers.filter fun header => ∀ name ∈ header.headerName?, ¬ SensitiveName name))
    | other => other

/-- What the hook does to the tags. -/
structure TagsSet (serviceName : String) (requestId : Option String) (tags later : Dict) : Prop where
  order : keys tags <+: keys later
  others : (later.filter fun entry => entry.1 ∉ ["service", "request_id"]) =
    tags.filter fun entry => entry.1 ∉ ["service", "request_id"]
  service : get? later "service" = some (.str serviceName)
  request_id : get? later "request_id" =
    match requestId.filter fun id => id ≠ "" ∧ id ≠ "-" with
    | some id => some (.str id)
    | none => get? tags "request_id"

section Parts

variable (isPrintable : Char → Bool)

theorem scrubRequest_scrubbed (request : Dict) : RequestScrubbed request (scrubRequest isPrintable request) := by
  have found : get? (pop (pop request "cookies") "data") "headers" = get? request "headers" := by
    rw [get?_pop_of_ne (by decide), get?_pop_of_ne (by decide)]
  have popped : keys (pop (pop request "cookies") "data") =
      (keys request).filter fun key => key ∉ ["cookies", "data"] := by
    rw [keys_pop, keys_pop, List.filter_filter]
    apply List.filter_congr
    intro key _
    simp [Bool.and_comm]
  have others : ((pop (pop request "cookies") "data").filter fun entry => entry.1 ≠ "headers") =
      request.filter fun entry => entry.1 ∉ ["cookies", "data", "headers"] := by
    rw [filter_pop, filter_pop]
    apply List.filter_congr
    intro entry _
    simp [Bool.and_comm]
  unfold scrubRequest scrubHeaders
  generalize pop (pop request "cookies") "data" = rest at found popped others ⊢
  have set {former headers : Value} (present : get? request "headers" = some former)
      (scrubbed : some headers = match get? request "headers" with
        | some (.dict headers) => some (.dict (headers.filter fun header => ¬ SensitiveName header.1))
        | some (.list headers) => some (.list
            (headers.filter fun header => ∀ name ∈ header.headerName?, ¬ SensitiveName name))
        | other => other) : RequestScrubbed request (setItem rest "headers" headers) := by
    refine ⟨?_, ?_, ?_⟩
    · rw [keys_setItem_of_mem (mem_keys_of_get? (found.trans present)), popped]
    · rw [filter_setItem fun _ => by simp, others]
    · rw [get?_setItem_self, scrubbed]
  rw [found]
  cases present : get? request "headers" with
  | none => exact ⟨popped, others, by rw [found, present]⟩
  | some value =>
    cases value with
    | dict headers =>
      apply set present
      rw [present, popSensitive_eq]
      simp
    | list headers =>
      apply set present
      rw [present]
      simp only [isSensitiveHeader_eq]
    | _ => exact ⟨popped, others, by rw [found, present]⟩

/-- Without cookies and body only the headers are looked at. -/
theorem scrubRequest_popped {request : Dict} (cookies : "cookies" ∉ keys request) (data : "data" ∉ keys request) :
    scrubRequest isPrintable request = scrubHeaders isPrintable request := by
  rw [scrubRequest, pop_eq_self cookies, pop_eq_self data]

/-- A request that has been scrubbed is left alone. -/
theorem scrubRequest_idem (request : Dict) :
    scrubRequest isPrintable (scrubRequest isPrintable request) = scrubRequest isPrintable request := by
  have cookies : "cookies" ∉ keys (pop (pop request "cookies") "data") := by simp [keys_pop]
  have data : "data" ∉ keys (pop (pop request "cookies") "data") := not_mem_keys_pop
  have start : scrubRequest isPrintable request =
      scrubRequest isPrintable (pop (pop request "cookies") "data") :=
    (scrubRequest_popped isPrintable cookies data).symm
  rw [start]
  generalize pop (pop request "cookies") "data" = rest at cookies data
  -- the headers have been set, and the second pass finds them as they are to be
  have kept {headers : Value} (key : String) (other : key ≠ "headers") (absent : key ∉ keys rest) :
      key ∉ keys (setItem rest "headers" headers) := by
    simp [mem_keys_setItem, absent, other]
  cases found : get? rest "headers" with
  | none =>
    have same : scrubRequest isPrintable rest = rest := by
      rw [scrubRequest_popped isPrintable cookies data, scrubHeaders, found]
    rw [same, same]
  | some value =>
    cases value with
    | dict headers =>
      have first : scrubRequest isPrintable rest = setItem rest "headers" (.dict (popSensitive headers)) := by
        rw [scrubRequest_popped isPrintable cookies data, scrubHeaders, found]
      rw [first, scrubRequest_popped isPrintable (kept _ (by decide) cookies) (kept _ (by decide) data),
        scrubHeaders, get?_setItem_self]
      simp only [popSensitive_eq, List.filter_filter, Bool.and_self]
      exact setItem_setItem
    | list headers =>
      have first : scrubRequest isPrintable rest = setItem rest "headers"
          (.list (headers.filter fun header => !isSensitiveHeader isPrintable header)) := by
        rw [scrubRequest_popped isPrintable cookies data, scrubHeaders, found]
      rw [first, scrubRequest_popped isPrintable (kept _ (by decide) cookies) (kept _ (by decide) data),
        scrubHeaders, get?_setItem_self]
      simp only [List.filter_filter, Bool.and_self]
      exact setItem_setItem
    | _ =>
      have same : scrubRequest isPrintable rest = rest := by
        rw [scrubRequest_popped isPrintable cookies data, scrubHeaders, found]
      rw [same, same]

/-- The tags that have been set are left alone. -/
theorem setTags_idem (serviceName : String) (requestId : Option String) (tags : Dict) :
    setTags serviceName requestId (setTags serviceName requestId tags) = setTags serviceName requestId tags := by
  unfold setTags
  cases requestId with
  | none => exact setItem_setItem
  | some id =>
    simp only
    split
    · have service : HasItem (setItem (setItem tags "service" (.str serviceName)) "request_id" (.str id))
          "service" (.str serviceName) := hasItem_setItem.setItem_of_ne (by decide)
      rw [service.setItem_eq]
      exact setItem_setItem
    · exact setItem_setItem

theorem setTags_set (serviceName : String) (requestId : Option String) (tags : Dict) :
    TagsSet serviceName requestId tags (setTags serviceName requestId tags) := by
  have tagged : TagsSet serviceName none tags (setItem tags "service" (.str serviceName)) := by
    refine ⟨keys_prefix_setItem, filter_setItem fun _ => by simp, get?_setItem_self, ?_⟩
    exact get?_setItem_of_ne (by decide)
  cases requestId with
  | none => exact tagged
  | some id =>
    unfold setTags
    simp only
    split
    · next named =>
      refine ⟨tagged.order.trans keys_prefix_setItem, ?_, ?_, ?_⟩
      · rw [filter_setItem fun _ => by simp, tagged.others]
      · rw [get?_setItem_of_ne (by decide), tagged.service]
      · rw [get?_setItem_self]
        simp [Option.filter, named]
    · next anonymous =>
      refine ⟨tagged.order, tagged.others, tagged.service, ?_⟩
      rw [tagged.request_id]
      simp [Option.filter, anonymous]

end Parts

/-- What the hook does to an event that it sends: the user is gone, the request is scrubbed, the tags are set,
and everything else is kept in its order. -/
structure EventScrubbed (serviceName : String) (requestId : Option String) (event result : Dict) : Prop where
  keys_eq : keys result =
    (keys event).filter (· ≠ "user") ++ if "tags" ∈ keys event then [] else ["tags"]
  others : (result.filter fun entry => entry.1 ∉ ["request", "tags"]) =
    event.filter fun entry => entry.1 ∉ ["user", "request", "tags"]
  request : match get? event "request" with
    | some (.dict request) =>
        ∃ scrubbed, get? result "request" = some (.dict scrubbed) ∧ RequestScrubbed request scrubbed
    | other => get? result "request" = other
  tags : match (get? event "tags").getD (.dict []) with
    | .dict tags => ∃ later, get? result "tags" = some (.dict later) ∧ TagsSet serviceName requestId tags later
    | other => get? result "tags" = some other

/-- Nothing private is left in an event. -/
structure Clean (event : Dict) : Prop where
  user : "user" ∉ keys event
  request : ∀ request, get? event "request" = some (.dict request) →
    "cookies" ∉ keys request ∧ "data" ∉ keys request
  dict_headers : ∀ request headers, get? event "request" = some (.dict request) →
    get? request "headers" = some (.dict headers) → ∀ header ∈ headers, ¬ SensitiveName header.1
  list_headers : ∀ request headers, get? event "request" = some (.dict request) →
    get? request "headers" = some (.list headers) →
      ∀ header ∈ headers, ∀ name, header.headerName? = some name → ¬ SensitiveName name

theorem RequestScrubbed.removed {request scrubbed : Dict} (done : RequestScrubbed request scrubbed) :
    "cookies" ∉ keys scrubbed ∧ "data" ∉ keys scrubbed := by
  rw [done.keys_eq]
  simp

/-- An event that was scrubbed is clean. -/
theorem EventScrubbed.clean {serviceName : String} {requestId : Option String} {event result : Dict}
    (scrubbed : EventScrubbed serviceName requestId event result) : Clean result := by
  have requests {request : Dict} (found : get? result "request" = some (.dict request)) :
      ∃ former, RequestScrubbed former request := by
    have scrubbed := scrubbed.request
    split at scrubbed
    · next former _ =>
      obtain ⟨later, same, done⟩ := scrubbed
      cases same.symm.trans found
      exact ⟨former, done⟩
    · next other notDict =>
      exact absurd (scrubbed.symm.trans found) (notDict request)
  refine ⟨?_, ?_, ?_, ?_⟩
  · rw [scrubbed.keys_eq]
    split <;> simp
  · intro request found
    obtain ⟨former, done⟩ := requests found
    exact done.removed
  · intro request headers found listed header member
    obtain ⟨former, done⟩ := requests found
    have headers_eq := done.headers
    rw [listed] at headers_eq
    split at headers_eq
    · cases headers_eq
      exact of_decide_eq_true (List.mem_filter.mp member).2
    · cases headers_eq
    · next other notDict _ => exact absurd headers_eq.symm (notDict headers)
  · intro request headers found listed header member name named
    obtain ⟨former, done⟩ := requests found
    have headers_eq := done.headers
    rw [listed] at headers_eq
    split at headers_eq
    · cases headers_eq
    · cases headers_eq
      exact of_decide_eq_true (List.mem_filter.mp member).2 name named
    · next other _ notList => exact absurd headers_eq.symm (notList headers)

section Events

variable (isPrintable : Char → Bool)

/-- What scrubbing does to an event, before the tags are set. -/
structure PrivateRemoved (event scrubbed : Dict) : Prop where
  keys_eq : keys scrubbed = (keys event).filter (· ≠ "user")
  others : (scrubbed.filter fun entry => entry.1 ≠ "request") =
    event.filter fun entry => entry.1 ∉ ["user", "request"]
  request : match get? event "request" with
    | some (.dict request) =>
        HasItem scrubbed "request" (.dict (scrubRequest isPrintable request))
    | other => get? scrubbed "request" = other

theorem scrubSensitiveData_removes (event : Dict) :
    PrivateRemoved isPrintable event (scrubSensitiveData isPrintable event) := by
  have found : get? (pop event "user") "request" = get? event "request" := get?_pop_of_ne (by decide)
  have others : ((pop event "user").filter fun entry => entry.1 ≠ "request") =
      event.filter fun entry => entry.1 ∉ ["user", "request"] := by
    rw [filter_pop]
    apply List.filter_congr
    intro entry _
    simp [Bool.and_comm]
  unfold scrubSensitiveData
  simp only
  rw [found]
  split
  · next request present =>
    refine ⟨?_, ?_, ?_⟩
    · rw [keys_setItem_of_mem (mem_keys_of_get? (found.trans present)), keys_pop]
    · rw [filter_setItem fun _ => by simp, others]
    · rw [present]
      exact hasItem_setItem
  · next notDict =>
    refine ⟨keys_pop, others, ?_⟩
    split
    · next request present => exact absurd present (notDict request)
    · exact found

/-- An event without a user and with a scrubbed request is left alone. -/
theorem scrubSensitiveData_eq_self {event : Dict} (user : "user" ∉ keys event)
    (request : ∀ request, get? event "request" = some (.dict request) →
      HasItem event "request" (.dict request) ∧ scrubRequest isPrintable request = request) :
    scrubSensitiveData isPrintable event = event := by
  unfold scrubSensitiveData
  rw [pop_eq_self user]
  simp only
  split
  · next found present =>
    obtain ⟨has, settled⟩ := request found present
    rw [settled, has.setItem_eq]
  · rfl

variable {event result : Dict} {excInfo : Option ExcInfo} {serviceName : String} {requestId : Option String}

/-- The tags are looked up in the scrubbed event, which has those of the event. -/
theorem PrivateRemoved.get?_tags {scrubbed : Dict} (removed : PrivateRemoved isPrintable event scrubbed) :
    get? scrubbed "tags" = get? event "tags" := by
  have kept := congrArg (get? · "tags") removed.others
  simpa only [get?_filter (p := fun entry : String × Value => entry.1 ≠ "request") (k := "tags") (by simp),
    get?_filter (p := fun entry : String × Value => entry.1 ∉ ["user", "request"]) (k := "tags") (by simp)]
    using kept

/-- The event that is sent, by what was found under its tags. -/
theorem beforeSend_cases (sent : beforeSend isPrintable event excInfo serviceName requestId = some result) :
    isHttpError excInfo = false ∧
      ∃ tagged, tagged = setDefault (scrubSensitiveData isPrintable event) "tags" (.dict []) ∧
        ((∃ tags, (get? event "tags").getD (.dict []) = .dict tags ∧
            result = setItem tagged "tags" (.dict (setTags serviceName requestId tags))) ∨
          (∀ tags, (get? event "tags").getD (.dict []) ≠ .dict tags) ∧ result = tagged) := by
  have found := (scrubSensitiveData_removes isPrintable event).get?_tags
  unfold beforeSend at sent
  split at sent
  · cases sent
  · next passes =>
    refine ⟨by simpa using passes, _, rfl, ?_⟩
    simp only [get?_setDefault_self, found] at sent
    split at sent
    · next tags present =>
      exact .inl ⟨tags, Option.some.inj present, (Option.some.inj sent).symm⟩
    · next notDict =>
      refine .inr ⟨?_, (Option.some.inj sent).symm⟩
      intro tags same
      exact notDict tags (congrArg some same)

theorem beforeSend_scrubbed (sent : beforeSend isPrintable event excInfo serviceName requestId = some result) :
    EventScrubbed serviceName requestId event result := by
  have removed := scrubSensitiveData_removes isPrintable event
  obtain ⟨_, tagged, shape, cases⟩ := beforeSend_cases isPrintable sent
  have tagged_tags : get? tagged "tags" = some ((get? event "tags").getD (.dict [])) := by
    rw [shape, get?_setDefault_self, removed.get?_tags]
  have keys_tagged : keys tagged =
      (keys event).filter (· ≠ "user") ++ if "tags" ∈ keys event then [] else ["tags"] := by
    rw [shape, keys_setDefault, removed.keys_eq]
    simp
  have others_tagged : (tagged.filter fun entry => entry.1 ∉ ["request", "tags"]) =
      event.filter fun entry => entry.1 ∉ ["user", "request", "tags"] := by
    have narrowed := congrArg (List.filter fun entry : String × Value => entry.1 ≠ "tags") removed.others
    rw [shape, filter_setDefault fun _ => by simp]
    simpa [List.filter_filter, Bool.and_comm, Bool.and_left_comm, Bool.and_assoc] using narrowed
  have request_tagged : get? tagged "request" = get? (scrubSensitiveData isPrintable event) "request" := by
    rw [shape, get?_setDefault_of_ne (by decide)]
  have finish {later : Dict} (kept : keys later = keys tagged)
      (rest : (later.filter fun entry => entry.1 ∉ ["request", "tags"]) =
        tagged.filter fun entry => entry.1 ∉ ["request", "tags"])
      (same : get? later "request" = get? tagged "request")
      (tags : match (get? event "tags").getD (.dict []) with
        | .dict tags => ∃ set, get? later "tags" = some (.dict set) ∧ TagsSet serviceName requestId tags set
        | other => get? later "tags" = some other) : EventScrubbed serviceName requestId event later := by
    refine ⟨kept.trans keys_tagged, rest.trans others_tagged, ?_, tags⟩
    rw [same, request_tagged]
    have request := removed.request
    split at request
    · next found =>
      exact ⟨_, request.get?_eq, scrubRequest_scrubbed isPrintable _⟩
    · exact request
  obtain ⟨tags, given, rfl⟩ | ⟨notDict, rfl⟩ := cases
  · refine finish (keys_setItem_of_mem (mem_keys_of_get? tagged_tags)) (filter_setItem fun _ => by simp)
      (get?_setItem_of_ne (by decide)) ?_
    rw [given]
    exact ⟨_, get?_setItem_self, setTags_set serviceName requestId tags⟩
  · apply finish rfl rfl rfl
    split
    · next tags given => exact absurd given (notDict tags)
    · exact tagged_tags

/-- A second pass over an event that is sent finds nothing to remove. -/
theorem beforeSend_settled (sent : beforeSend isPrintable event excInfo serviceName requestId = some result) :
    scrubSensitiveData isPrintable result = result := by
  have removed := scrubSensitiveData_removes isPrintable event
  have scrubbed := beforeSend_scrubbed isPrintable sent
  obtain ⟨_, tagged, shape, cases⟩ := beforeSend_cases isPrintable sent
  apply scrubSensitiveData_eq_self isPrintable scrubbed.clean.user
  have kept {value : Value} (has : HasItem (scrubSensitiveData isPrintable event) "request" value) :
      HasItem result "request" value := by
    have tagged_has : HasItem tagged "request" value := by
      rw [shape]
      exact has.setDefault_of_ne (by decide)
    obtain ⟨tags, _, rfl⟩ | ⟨_, rfl⟩ := cases
    · exact tagged_has.setItem_of_ne (by decide)
    · exact tagged_has
  intro request found
  have request_eq := removed.request
  have scrubbed_request := scrubbed.request
  by_cases given : ∃ former, get? event "request" = some (.dict former)
  · obtain ⟨former, given⟩ := given
    rw [given] at request_eq
    have has := kept request_eq
    cases has.get?_eq.symm.trans found
    exact ⟨has, scrubRequest_idem isPrintable former⟩
  · split at scrubbed_request
    · next former same => exact absurd ⟨former, same⟩ given
    · next other notDict => exact absurd (scrubbed_request.symm.trans found) (notDict request)

/-- Sending an event again changes nothing, for the same tags. -/
theorem beforeSend_again (sent : beforeSend isPrintable event excInfo serviceName requestId = some result) :
    beforeSend isPrintable result excInfo serviceName requestId = some result := by
  have settled := beforeSend_settled isPrintable sent
  have removed := scrubSensitiveData_removes isPrintable event
  obtain ⟨passes, tagged, shape, cases⟩ := beforeSend_cases isPrintable sent
  have tagged_tags : get? tagged "tags" = some ((get? event "tags").getD (.dict [])) := by
    rw [shape, get?_setDefault_self, removed.get?_tags]
  unfold beforeSend
  rw [if_neg (by simp [passes]), settled]
  obtain ⟨tags, given, result_eq⟩ | ⟨notDict, rfl⟩ := cases
  · have has : HasItem result "tags" (.dict (setTags serviceName requestId tags)) := result_eq ▸ hasItem_setItem
    simp only [setDefault, if_pos has.present, has.get?_eq, setTags_idem, has.setItem_eq]
  · simp only [setDefault, if_pos (mem_keys_of_get? tagged_tags), tagged_tags]
    split
    · next tags same => exact absurd (Option.some.inj same) (notDict tags)
    · rfl

/-- An event that is sent has nothing private left in it, keeps everything else with its values and in its
order, and is left as it is by a second pass. -/
theorem sent_events_scrubbed (sent : beforeSend isPrintable event excInfo serviceName requestId = some result) :
    Clean result ∧ EventScrubbed serviceName requestId event result ∧
      scrubSensitiveData isPrintable result = result ∧
      beforeSend isPrintable result excInfo serviceName requestId = some result := by
  have scrubbed := beforeSend_scrubbed isPrintable sent
  exact ⟨scrubbed.clean, scrubbed, beforeSend_settled isPrintable sent, beforeSend_again isPrintable sent⟩

end Events

/-- A request with private data, and headers of which two are named alike in different letter cases. -/
private def loginEvent : Dict :=
  [("level", .str "error"), ("user", .dict [("id", .str "private")]),
    ("request", .dict [("cookies", .dict [("session", .str "private")]),
      ("headers", .list [.tuple [.str "Set-Cookie", .str "a"], .str "cookie", .list [.str "SET-COOKIE", .str "b"],
        .list [.str "Accept", .str "text/html"], .list [.list [.str "cookie"]]]),
      ("data", .str "private")]),
    ("extra", .none)]

private def loginEventSent : Dict :=
  [("level", .str "error"),
    ("request", .dict [("headers", .list [.str "cookie", .list [.str "Accept", .str "text/html"],
      .list [.list [.str "cookie"]]])]),
    ("extra", .none), ("tags", .dict [("service", .str "auth-api"), ("request_id", .str "request-123")])]

/-- Only the pairs with a sensitive name are left out of the headers. -/
theorem sent_events_scrubbed_login :
    Clean loginEventSent ∧ EventScrubbed "auth-api" (some "request-123") loginEvent loginEventSent ∧
      scrubSensitiveData (fun _ => true) loginEventSent = loginEventSent ∧
      beforeSend (fun _ => true) loginEventSent none "auth-api" (some "request-123") = some loginEventSent :=
  @sent_events_scrubbed (fun _ => true) loginEvent _ none _ _ rfl

end AuthApi
