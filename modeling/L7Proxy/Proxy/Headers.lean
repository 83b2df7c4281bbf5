import L7Proxy.Proxy.Request
import L7Proxy.Library.DelimitedList

/-!
# Forwarded headers

What the normalization of a request's headers does to the values of each name, and
which headers an attempt carries across the proxy.
-/

set_option autoImplicit false

namespace L7Proxy

open Interaction DelimitedList

/-- The names whose values the proxy sets itself. -/
def proxyHeaders : List HeaderName :=
  ["x-request-id", "x-forwarded-for", "x-forwarded-proto", "x-forwarded-host"]

/-- The value of the first `Host` line when it is visible ASCII. -/
def originalHost (headers : HeaderMap) : Option HeaderValue :=
  (headers.get "host").filter fun value => value.bytes.all isVisibleAscii

/-- What the headers sent for a request have under each name. -/
structure Normalized (headers : HeaderMap) (requestId : Uuid) (clientIp : Option IpAddr)
    (sent : HeaderMap) : Prop where
  hopByHop : ∀ name ∈ hopByHopHeaders, sent.getAll name = []
  identified : (sent.getAll "x-request-id").map (·.bytes) = [utf8Bytes requestId.text]
  forwarded : ∀ ip, clientIp = some ip →
    (sent.getAll "x-forwarded-for").map (·.bytes) = [utf8Bytes (forwardedFor headers ip)]
  unforwarded : clientIp = none → sent.getAll "x-forwarded-for" = headers.getAll "x-forwarded-for"
  proto : (sent.getAll "x-forwarded-proto").map (·.bytes) = [utf8Bytes "http"]
  host : ∀ value, originalHost headers = some value → sent.getAll "x-forwarded-host" = [value]
  unhosted : originalHost headers = none →
    sent.getAll "x-forwarded-host" = headers.getAll "x-forwarded-host"
  others : ∀ name, name ∉ hopByHopHeaders → name ∉ proxyHeaders → sent.getAll name = headers.getAll name

/-!
## Stripping and normalizing
-/

theorem getAll_foldl_remove (names : List HeaderName) (headers : HeaderMap) (name : HeaderName) :
    (names.foldl HeaderMap.remove headers).getAll name =
      if name ∈ names then [] else headers.getAll name := by
  induction names generalizing headers with
  | nil => simp
  | cons removed names ih =>
      rw [List.foldl_cons, ih, HeaderMap.getAll_remove]
      by_cases same : name = removed <;> simp [same]

theorem getAll_stripHopByHop (headers : HeaderMap) (name : HeaderName) :
    (stripHopByHopHeaders headers).getAll name =
      if name ∈ hopByHopHeaders then [] else headers.getAll name :=
  getAll_foldl_remove hopByHopHeaders headers name

theorem fromStr_bytes {text : String} {value : HeaderValue} (legal : HeaderValue.fromStr text = some value) :
    value.bytes = utf8Bytes text := by
  unfold HeaderValue.fromStr at legal
  split at legal
  · cases legal
    rfl
  · cases legal

theorem forwardedFor_insert (headers : HeaderMap) (value : HeaderValue) (ip : IpAddr) :
    forwardedFor (headers.insert "x-request-id" value) ip = forwardedFor headers ip := by
  have same : (headers.insert "x-request-id" value).get "x-forwarded-for" = headers.get "x-forwarded-for" := by
    rw [HeaderMap.get, HeaderMap.getAll_insert, if_neg (by decide), HeaderMap.get]
  rw [forwardedFor, same, forwardedFor]

theorem bind_fromStr_toStr (headers : HeaderMap) :
    ((headers.get "host").bind HeaderValue.toStr).bind HeaderValue.fromStr = originalHost headers := by
  unfold originalHost
  cases headers.get "host" with
  | none => rfl
  | some value =>
      by_cases visible : value.bytes.all isVisibleAscii = true
      · have converted : value.toStr = some _ := if_pos visible
        have restored := HeaderValue.fromStr_toStr converted
        rw [Option.bind_some, converted, Option.bind_some, restored, Option.filter_some, if_pos visible]
      · have refused : value.toStr = none := if_neg visible
        rw [Option.bind_some, refused, Option.bind_none, Option.filter_some, if_neg visible]

def withForwardedHost (headers : HeaderMap) : Option HeaderValue → HeaderMap
  | some value => headers.insert "x-forwarded-host" value
  | none => headers

theorem getAll_withForwardedHost (headers : HeaderMap) (host : Option HeaderValue) {name : HeaderName}
    (other : name ≠ "x-forwarded-host") : (withForwardedHost headers host).getAll name = headers.getAll name := by
  cases host with
  | none => rfl
  | some value => rw [withForwardedHost, HeaderMap.getAll_insert, if_neg other]

/-- The steps after the client's address has been appended. -/
private theorem normalized_of_forwarded {headers forwarded : HeaderMap} {requestId : Uuid}
    {clientIp : Option IpAddr} {idValue protoValue : HeaderValue}
    (idLegal : HeaderValue.fromStr requestId.text = some idValue)
    (protoLegal : HeaderValue.fromStr "http" = some protoValue)
    (appended : ∀ ip, clientIp = some ip →
      (forwarded.getAll "x-forwarded-for").map (·.bytes) = [utf8Bytes (forwardedFor headers ip)])
    (kept : ∀ name, name ≠ "x-forwarded-for" ∨ clientIp = none →
      forwarded.getAll name = (headers.insert "x-request-id" idValue).getAll name) :
    Normalized headers requestId clientIp (stripHopByHopHeaders
      (withForwardedHost (forwarded.insert "x-forwarded-proto" protoValue) (originalHost headers))) := by
  have stored : ∀ name ∉ hopByHopHeaders, name ≠ "x-forwarded-host" → name ≠ "x-forwarded-proto" →
      (stripHopByHopHeaders (withForwardedHost (forwarded.insert "x-forwarded-proto" protoValue)
        (originalHost headers))).getAll name = forwarded.getAll name := by
    intro name passes notHost notProto
    rw [getAll_stripHopByHop, if_neg passes, getAll_withForwardedHost _ _ notHost, HeaderMap.getAll_insert,
      if_neg notProto]
  exact {
    hopByHop := fun name hop => by rw [getAll_stripHopByHop, if_pos hop]
    identified := by
      rw [stored _ (by decide) (by decide) (by decide), kept _ (.inl (by decide)), HeaderMap.getAll_insert,
        if_pos rfl, List.map_singleton, fromStr_bytes idLegal]
    forwarded := fun ip known => by
      rw [stored _ (by decide) (by decide) (by decide)]
      exact appended ip known
    unforwarded := fun unknown => by
      rw [stored _ (by decide) (by decide) (by decide), kept _ (.inr unknown), HeaderMap.getAll_insert,
        if_neg (by decide)]
    proto := by
      rw [getAll_stripHopByHop, if_neg (by decide), getAll_withForwardedHost _ _ (by decide),
        HeaderMap.getAll_insert, if_pos rfl, List.map_singleton, fromStr_bytes protoLegal]
    host := fun value read => by
      rw [getAll_stripHopByHop, if_neg (by decide), read, withForwardedHost, HeaderMap.getAll_insert,
        if_pos rfl]
    unhosted := fun unread => by
      rw [getAll_stripHopByHop, if_neg (by decide), unread, withForwardedHost, HeaderMap.getAll_insert,
        if_neg (by decide), kept _ (.inl (by decide)), HeaderMap.getAll_insert, if_neg (by decide)]
    others := fun name passes other => by
      simp only [proxyHeaders, List.mem_cons, List.not_mem_nil, or_false, not_or] at other
      rw [stored name passes other.2.2.2 other.2.2.1, kept name (.inl other.2.1), HeaderMap.getAll_insert,
        if_neg other.1] }

theorem normalizeHeaders_normalized {headers sent : HeaderMap} {requestId : Uuid}
    {clientIp : Option IpAddr} (normalized : normalizeHeaders headers requestId.text clientIp = some sent) :
    Normalized headers requestId clientIp sent := by
  unfold normalizeHeaders at normalized
  dsimp only at normalized
  rw [bind_fromStr_toStr] at normalized
  obtain ⟨idValue, idLegal, rest⟩ := Option.bind_eq_some_iff.mp normalized
  cases clientIp with
  | none =>
      obtain ⟨forwarded, same, rest⟩ := Option.bind_eq_some_iff.mp rest
      obtain ⟨protoValue, protoLegal, rest⟩ := Option.bind_eq_some_iff.mp rest
      cases same
      cases rest
      refine normalized_of_forwarded idLegal protoLegal ?_ fun _ _ => rfl
      intro ip known
      cases known
  | some ip =>
      obtain ⟨forwarded, appends, rest⟩ := Option.bind_eq_some_iff.mp rest
      obtain ⟨protoValue, protoLegal, rest⟩ := Option.bind_eq_some_iff.mp rest
      cases rest
      obtain ⟨forValue, forLegal, rfl⟩ := Option.map_eq_some_iff.mp appends
      rw [forwardedFor_insert] at forLegal
      refine normalized_of_forwarded idLegal protoLegal ?_ ?_
      · intro other known
        cases known
        rw [HeaderMap.getAll_insert, if_pos rfl, List.map_singleton, fromStr_bytes forLegal]
      · intro name elsewhere
        rw [HeaderMap.getAll_insert, if_neg (elsewhere.resolve_right (Option.some_ne_none ip))]

/-!
## The chain of forwarded addresses
-/

def isBlankByte (byte : UInt8) : Bool := byte = 32 || byte = 9

/-- The elements of a comma-separated field value. -/
def listElements (bytes : Bytes) : List Bytes := elements 44 isBlankByte bytes

/-- The elements on all `X-Forwarded-For` lines in order. -/
def forwardedElements (headers : HeaderMap) : List Bytes :=
  (headers.getAll "x-forwarded-for").flatMap fun value => listElements value.bytes

/-- The first `X-Forwarded-For` line, if any, is visible ASCII, and the further ones
have nothing but commas and blanks. -/
def ChainOnFirstLine (headers : HeaderMap) : Prop :=
  ∀ first further, headers.getAll "x-forwarded-for" = first :: further →
    first.bytes.all isVisibleAscii = true ∧
      ∀ line ∈ further, ∀ byte ∈ line.bytes, byte = 44 ∨ isBlankByte byte = true

theorem utf8Bytes_append (left right : String) : utf8Bytes (left ++ right) = utf8Bytes left ++ utf8Bytes right := by
  simp [utf8Bytes]

theorem listElements_address (ip : IpAddr) : listElements (utf8Bytes ip.display) = [utf8Bytes ip.display] := by
  have bytes := utf8Bytes_of_visible ip.visible
  refine elements_of_solid ?_ ?_
  · rw [bytes]
    intro empty
    have blank : ip.display = "" := String.toList_eq_nil_iff.mp (List.map_eq_nil_iff.mp empty)
    exact ip.address.1 blank
  · intro byte member
    rw [bytes] at member
    obtain ⟨char, present, rfl⟩ := List.mem_map.mp member
    have bounds := ip.char_bounds char present
    have code : (UInt8.ofNat char.toNat).toNat = char.toNat := by
      rw [UInt8.toNat_ofNat']
      omega
    simp only [isBlankByte, ← UInt8.toNat_inj, code, ne_eq, Bool.or_eq_false_iff, decide_eq_false_iff_not,
      UInt8.reduceToNat]
    omega

theorem listElements_appended (chain : String) (ip : IpAddr) :
    listElements (utf8Bytes (chain ++ ", " ++ ip.display)) =
      listElements (utf8Bytes chain) ++ [utf8Bytes ip.display] := by
  have separator : utf8Bytes ", " = [44, 32] := by decide
  rw [utf8Bytes_append, utf8Bytes_append, separator, List.append_assoc, List.cons_append, List.cons_append,
    List.nil_append, listElements, elements_append, elements_cons_blank rfl (by decide)]
  exact congrArg _ (listElements_address ip)

/-- A value that is not visible ASCII has a byte that is neither a comma nor a blank. -/
theorem listElements_unreadable {value : HeaderValue} (unreadable : ¬ value.bytes.all isVisibleAscii = true) :
    listElements value.bytes ≠ [] := by
  intro empty
  rw [listElements, elements_eq_nil_iff] at empty
  refine unreadable (List.all_eq_true.mpr fun byte member => ?_)
  rcases empty byte member with comma | blank
  · rw [comma]
    decide
  · simp only [isBlankByte, Bool.or_eq_true, decide_eq_true_eq] at blank
    rcases blank with space | tab
    · rw [space]
      decide
    · rw [tab]
      decide

theorem forwardedElements_normalized {headers sent : HeaderMap} {requestId : Uuid} {ip : IpAddr}
    (normalized : Normalized headers requestId (some ip) sent) :
    forwardedElements sent = listElements (utf8Bytes (forwardedFor headers ip)) := by
  obtain ⟨value, line, bytes⟩ := List.map_eq_singleton_iff.mp (normalized.forwarded ip rfl)
  rw [forwardedElements, line, List.flatMap_singleton, bytes]

/-- The chain sent upstream is the received one followed by the client's address
exactly when all of it was on the first line. -/
theorem forwardedElements_appended_iff {headers sent : HeaderMap} {requestId : Uuid} {ip : IpAddr}
    (normalized : Normalized headers requestId (some ip) sent) :
    forwardedElements sent = forwardedElements headers ++ [utf8Bytes ip.display] ↔ ChainOnFirstLine headers := by
  rw [forwardedElements_normalized normalized, forwardedFor, HeaderMap.get]
  unfold forwardedElements ChainOnFirstLine
  cases lines : headers.getAll "x-forwarded-for" with
  | nil => simp [listElements_address]
  | cons first further =>
      have onFirst : (∀ first' further', first :: further = first' :: further' →
          first'.bytes.all isVisibleAscii = true ∧
            ∀ line ∈ further', ∀ byte ∈ line.bytes, byte = 44 ∨ isBlankByte byte = true) ↔
          first.bytes.all isVisibleAscii = true ∧
            ∀ line ∈ further, ∀ byte ∈ line.bytes, byte = 44 ∨ isBlankByte byte = true := by
        simp [List.cons.injEq]
      rw [onFirst, List.head?_cons, List.flatMap_cons]
      dsimp only
      rw [listElements_appended, List.append_cancel_right_eq]
      by_cases readable : first.bytes.all isVisibleAscii = true
      · have converted : first.toStr = some _ := if_pos readable
        rw [converted, Option.getD_some, ← fromStr_bytes (HeaderValue.fromStr_toStr converted),
          List.self_eq_append_right, List.flatMap_eq_nil_iff]
        simp only [readable, true_and, listElements, elements_eq_nil_iff]
      · have refused : first.toStr = none := if_neg readable
        have empty : listElements (utf8Bytes "") = [] := by decide
        rw [refused, Option.getD_none, empty]
        simp [readable, listElements_unreadable readable]

/-!
## Headers nominated by `Connection`
-/

def toAsciiLower (byte : UInt8) : UInt8 := if 65 ≤ byte ∧ byte ≤ 90 then byte + 32 else byte

/-- Some token on a `Connection` line is the name, in any case. -/
def Nominated (headers : HeaderMap) (name : HeaderName) : Prop :=
  ∃ value ∈ headers.getAll "connection",
    utf8Bytes name ∈ (listElements value.bytes).map fun token => token.map toAsciiLower

/-- The outgoing message has no header that is hop-by-hop for the incoming one. -/
def NoneCross (incoming outgoing : HeaderMap) : Prop :=
  ∀ name, name ∈ hopByHopHeaders ∨ Nominated incoming name → outgoing.getAll name = []

/-- Every nominated name is one of the eight or absent. -/
def NominatesOnlyStripped (headers : HeaderMap) : Prop :=
  ∀ name, Nominated headers name → name ∉ hopByHopHeaders → headers.getAll name = []

/-- No nominated name is one under which the proxy sets a value. -/
def NominatesNothingSet (headers : HeaderMap) (clientIp : Option IpAddr) : Prop :=
  ¬ Nominated headers "x-request-id" ∧ ¬ Nominated headers "x-forwarded-proto" ∧
    (clientIp ≠ none → ¬ Nominated headers "x-forwarded-for") ∧
    (originalHost headers ≠ none → ¬ Nominated headers "x-forwarded-host")

/-- Where every token on the `Connection` lines is one of the eight names, so is every nominated name. -/
theorem nominated_hopByHop {headers : HeaderMap} {name : HeaderName}
    (tokens : ∀ value ∈ headers.getAll "connection", ∀ token ∈ listElements value.bytes,
      token.map toAsciiLower ∈ hopByHopHeaders.map utf8Bytes)
    (nominated : Nominated headers name) : name ∈ hopByHopHeaders := by
  obtain ⟨value, present, named⟩ := nominated
  obtain ⟨token, listed, same⟩ := List.mem_map.mp named
  have stripped := tokens value present token listed
  rw [same, List.mem_map] at stripped
  obtain ⟨other, member, equal⟩ := stripped
  exact utf8Bytes_injective equal ▸ member

theorem stripped_noneCross_iff (headers : HeaderMap) :
    NoneCross headers (stripHopByHopHeaders headers) ↔ NominatesOnlyStripped headers := by
  unfold NoneCross NominatesOnlyStripped
  refine forall_congr' fun name => ?_
  rw [getAll_stripHopByHop]
  by_cases hop : name ∈ hopByHopHeaders <;> simp [hop]

private theorem ne_nil_of_map_eq_singleton {α β : Type} {values : List α} {read : α → β} {value : β}
    (single : values.map read = [value]) : values ≠ [] := by
  intro empty
  rw [empty] at single
  cases single

theorem normalized_noneCross_iff {headers sent : HeaderMap} {requestId : Uuid} {clientIp : Option IpAddr}
    (normalized : Normalized headers requestId clientIp sent) :
    NoneCross headers sent ↔ NominatesOnlyStripped headers ∧ NominatesNothingSet headers clientIp := by
  constructor
  · intro crosses
    have noId : ¬ Nominated headers "x-request-id" := fun nominated =>
      ne_nil_of_map_eq_singleton normalized.identified (crosses _ (.inr nominated))
    have noProto : ¬ Nominated headers "x-forwarded-proto" := fun nominated =>
      ne_nil_of_map_eq_singleton normalized.proto (crosses _ (.inr nominated))
    have noFor : clientIp ≠ none → ¬ Nominated headers "x-forwarded-for" := by
      intro known nominated
      obtain ⟨ip, client⟩ := Option.ne_none_iff_exists'.mp known
      exact ne_nil_of_map_eq_singleton (normalized.forwarded ip client) (crosses _ (.inr nominated))
    have noHost : originalHost headers ≠ none → ¬ Nominated headers "x-forwarded-host" := by
      intro known nominated
      obtain ⟨value, host⟩ := Option.ne_none_iff_exists'.mp known
      have absent := crosses _ (.inr nominated)
      rw [normalized.host value host] at absent
      cases absent
    refine ⟨fun name nominated kept => ?_, noId, noProto, noFor, noHost⟩
    have absent := crosses name (.inr nominated)
    by_cases own : name ∈ proxyHeaders
    · simp only [proxyHeaders, List.mem_cons, List.not_mem_nil, or_false] at own
      rcases own with rfl | rfl | rfl | rfl
      · exact absurd nominated noId
      · rw [← normalized.unforwarded (by_contra fun known => noFor known nominated), absent]
      · exact absurd nominated noProto
      · rw [← normalized.unhosted (by_contra fun known => noHost known nominated), absent]
    · rw [← normalized.others name kept own, absent]
  · intro condition name hopByHop
    obtain ⟨stripped, noId, noProto, noFor, noHost⟩ := condition
    by_cases hop : name ∈ hopByHopHeaders
    · exact normalized.hopByHop name hop
    · have nominated := hopByHop.resolve_left hop
      have absent := stripped name nominated hop
      by_cases own : name ∈ proxyHeaders
      · simp only [proxyHeaders, List.mem_cons, List.not_mem_nil, or_false] at own
        rcases own with rfl | rfl | rfl | rfl
        · exact absurd nominated noId
        · cases client : clientIp with
          | none => rw [normalized.unforwarded client, absent]
          | some ip => exact absurd nominated (noFor (by simp [client]))
        · exact absurd nominated noProto
        · cases host : originalHost headers with
          | none => rw [normalized.unhosted host, absent]
          | some value => exact absurd nominated (noHost (by simp [host]))
      · rw [normalized.others name hop own, absent]

end L7Proxy
