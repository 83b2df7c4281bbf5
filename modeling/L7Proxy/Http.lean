import L7Proxy.Primitives

/-!
# HTTP messages

The parts of requests and responses that the proxy reads and writes, with the
behaviour the HTTP library documents for them.
-/

set_option autoImplicit false

namespace L7Proxy

abbrev Bytes := List UInt8

def utf8Bytes (text : String) : Bytes := text.toList.flatMap String.utf8EncodeChar

theorem utf8Encode_eq_utf8Bytes (text : String) : text.toList.utf8Encode = (utf8Bytes text).toByteArray := by
  simp [List.utf8Encode, utf8Bytes]

theorem toByteArray_utf8Bytes (text : String) : (utf8Bytes text).toByteArray = text.toByteArray := by
  rw [← utf8Encode_eq_utf8Bytes]
  exact String.utf8Encode_toList

theorem utf8Bytes_injective : Function.Injective utf8Bytes := by
  intro left right same
  have encoded := congrArg List.toByteArray same
  rw [toByteArray_utf8Bytes, toByteArray_utf8Bytes] at encoded
  exact String.toByteArray_inj.mp encoded

/-!
## Header values
-/

def isVisibleAscii (byte : UInt8) : Bool := (32 ≤ byte && byte < 127) || byte = 9

def isValidHeaderByte (byte : UInt8) : Bool := (32 ≤ byte && byte ≠ 127) || byte = 9

structure HeaderValue where
  bytes : Bytes
  valid : bytes.all isValidHeaderByte = true
  deriving DecidableEq

namespace HeaderValue

/-- `HeaderValue::from_str` accepts the bytes of a string that are legal. -/
def fromStr (text : String) : Option HeaderValue :=
  if valid : (utf8Bytes text).all isValidHeaderByte then some ⟨utf8Bytes text, valid⟩ else none

/-- `HeaderValue::to_str` succeeds on visible ASCII. -/
def toStr (value : HeaderValue) : Option String :=
  if value.bytes.all isVisibleAscii then
    some (String.ofList (value.bytes.map fun byte => Char.ofNat byte.toNat))
  else none

end HeaderValue

/-- Text of visible ASCII characters and tabs. -/
def VisibleText (text : String) : Prop :=
  ∀ char ∈ text.toList, (32 ≤ char.toNat ∧ char.toNat < 127) ∨ char.toNat = 9

instance (text : String) : Decidable (VisibleText text) :=
  decidable_of_iff (text.toList.all fun char => (32 ≤ char.toNat && char.toNat < 127) || char.toNat == 9)
    (by simp [VisibleText])

@[simp] theorem visibleText_append (left right : String) :
    VisibleText (left ++ right) ↔ VisibleText left ∧ VisibleText right := by
  simp only [VisibleText, String.toList_append, List.mem_append]
  exact ⟨fun visible => ⟨fun char member => visible char (.inl member),
    fun char member => visible char (.inr member)⟩,
    fun visible char member => member.elim (visible.1 char) (visible.2 char)⟩

theorem utf8Bytes_of_visible {text : String} (visible : VisibleText text) :
    utf8Bytes text = text.toList.map fun char => UInt8.ofNat char.toNat := by
  unfold utf8Bytes VisibleText at *
  generalize text.toList = chars at visible
  induction chars with
  | nil => rfl
  | cons char chars ih =>
      have small := visible char List.mem_cons_self
      have encoded : String.utf8EncodeChar char = [UInt8.ofNat char.toNat] := by
        unfold String.utf8EncodeChar
        exact if_pos (by simp only [Char.toNat] at small; omega)
      rw [List.flatMap_cons, List.map_cons, encoded,
        ih fun other member => visible other (List.mem_cons_of_mem _ member)]
      rfl

theorem isValidHeaderByte_ofNat {code : Nat} (visible : (32 ≤ code ∧ code < 127) ∨ code = 9) :
    isValidHeaderByte (UInt8.ofNat code) = true := by
  have same : (UInt8.ofNat code).toNat = code := by
    rw [UInt8.toNat_ofNat']
    omega
  simp only [isValidHeaderByte, UInt8.le_iff_toNat_le, Bool.or_eq_true, Bool.and_eq_true,
    decide_eq_true_eq, ne_eq, ← UInt8.toNat_inj, same, UInt8.reduceToNat]
  omega

theorem HeaderValue.fromStr_of_visible {text : String} (visible : VisibleText text) :
    ∃ value, fromStr text = some value ∧
      value.bytes = text.toList.map fun char => UInt8.ofNat char.toNat := by
  have bytes := utf8Bytes_of_visible visible
  have valid : (utf8Bytes text).all isValidHeaderByte = true := by
    simp only [bytes, List.all_map, List.all_eq_true]
    exact fun char member => isValidHeaderByte_ofNat (visible char member)
  exact ⟨⟨utf8Bytes text, valid⟩, by simp [fromStr, valid], bytes⟩

theorem HeaderValue.toStr_visible {value : HeaderValue} {text : String}
    (converted : value.toStr = some text) : VisibleText text := by
  simp only [toStr] at converted
  split at converted
  · next visible =>
      cases converted
      intro char member
      simp only [String.toList_ofList, List.mem_map] at member
      obtain ⟨byte, present, rfl⟩ := member
      have bounds := List.all_eq_true.mp visible byte present
      simp only [isVisibleAscii, Bool.or_eq_true, Bool.and_eq_true, decide_eq_true_eq,
        UInt8.le_iff_toNat_le, UInt8.lt_iff_toNat_lt, ← UInt8.toNat_inj] at bounds
      have code : (Char.ofNat byte.toNat).toNat = byte.toNat := by
        have small := byte.toNat_lt
        rw [Char.ofNat, dif_pos (.inl (by omega))]
        rfl
      rw [code]
      simpa using bounds
  · cases converted

/-- Turning a value into text and back gives the value. -/
theorem HeaderValue.fromStr_toStr {value : HeaderValue} {text : String}
    (converted : value.toStr = some text) : fromStr text = some value := by
  have bytes := utf8Bytes_of_visible (toStr_visible converted)
  simp only [toStr] at converted
  split at converted
  · cases converted
    have same : utf8Bytes (String.ofList (value.bytes.map fun byte => Char.ofNat byte.toNat)) = value.bytes := by
      rw [bytes, String.toList_ofList, List.map_map]
      conv_rhs => rw [← List.map_id value.bytes]
      refine List.map_congr_left fun byte _ => ?_
      have small := byte.toNat_lt
      have code : (Char.ofNat byte.toNat).toNat = byte.toNat := by
        rw [Char.ofNat, dif_pos (.inl (by omega))]
        rfl
      simp [code]
    obtain ⟨bytes, valid⟩ := value
    simp only [fromStr, same, valid, dif_pos]
  · cases converted

/-!
## Header maps
-/

/-- Header names, which the library keeps in lower case. -/
abbrev HeaderName := String

/-- The fields in order; a name may occur on several lines. -/
abbrev HeaderMap := List (HeaderName × HeaderValue)

namespace HeaderMap

def getAll (headers : HeaderMap) (name : HeaderName) : List HeaderValue :=
  (headers.filter (·.1 = name)).map (·.2)

def get (headers : HeaderMap) (name : HeaderName) : Option HeaderValue :=
  (getAll headers name).head?

def remove (headers : HeaderMap) (name : HeaderName) : HeaderMap :=
  headers.filter (·.1 ≠ name)

def insert (headers : HeaderMap) (name : HeaderName) (value : HeaderValue) : HeaderMap :=
  remove headers name ++ [(name, value)]

variable (headers : HeaderMap) (name other : HeaderName) (value : HeaderValue)

theorem getAll_remove :
    (headers.remove name).getAll other = if other = name then [] else headers.getAll other := by
  simp only [getAll, remove, List.filter_filter]
  split
  · next same =>
      subst same
      simp
  · next different =>
      refine congrArg _ (List.filter_congr fun field _ => ?_)
      by_cases here : field.1 = other <;> simp [here, different]

theorem getAll_insert :
    (headers.insert name value).getAll other = if other = name then [value] else headers.getAll other := by
  have split : (headers.insert name value).getAll other =
      (headers.remove name).getAll other ++ getAll [(name, value)] other := by
    simp [insert, getAll]
  rw [split, getAll_remove]
  by_cases same : other = name
  · simp [same, getAll]
  · simp [same, getAll, Ne.symm same]

end HeaderMap

/-!
## Requests and responses
-/

/-- The characters of addresses: hexadecimal digits, dots and colons. -/
def isAddressChar (char : Char) : Bool :=
  (48 ≤ char.toNat && char.toNat ≤ 58) || (97 ≤ char.toNat && char.toNat ≤ 102) || char.toNat == 46

structure IpAddr where
  display : String
  address : display ≠ "" ∧ display.toList.all isAddressChar = true
  deriving DecidableEq

theorem IpAddr.char_bounds (ip : IpAddr) : ∀ char ∈ ip.display.toList, 46 ≤ char.toNat ∧ char.toNat ≤ 102 := by
  intro char member
  have bounds := List.all_eq_true.mp ip.address.2 char member
  simp only [isAddressChar, Bool.or_eq_true, Bool.and_eq_true, decide_eq_true_eq, beq_iff_eq] at bounds
  omega

theorem IpAddr.visible (ip : IpAddr) : VisibleText ip.display := by
  intro char member
  have bounds := ip.char_bounds char member
  omega

structure Uuid where
  text : String
  visible : VisibleText text
  deriving DecidableEq

/-- The request target as far as the proxy reads it. -/
structure Uri where
  pathAndQuery : Option String
  deriving DecidableEq

/-- The part of a path-and-query before its query; an empty path reads as `/`. -/
def pathOf (pathAndQuery : String) : String :=
  let path := String.ofList (pathAndQuery.toList.takeWhile (· ≠ '?'))
  if path.isEmpty then "/" else path

def Uri.path (uri : Uri) : String := (uri.pathAndQuery.map pathOf).getD ""

/-- A request as the proxy receives it; its body is read while it is served. -/
structure Request where
  method : String
  uri : Uri
  headers : HeaderMap
  remoteAddr : Option IpAddr
  deriving DecidableEq

structure OutgoingRequest where
  method : String
  uri : String
  headers : HeaderMap
  body : Bytes
  deriving DecidableEq

structure StatusCode where
  code : Nat
  inRange : 100 ≤ code ∧ code < 1000
  deriving DecidableEq

namespace StatusCode

/-- `StatusCode::is_server_error`: the class 500 to 599. -/
def isServerError (status : StatusCode) : Bool := 500 ≤ status.code ∧ status.code < 600

theorem isServerError_iff {status : StatusCode} :
    status.isServerError = true ↔ 500 ≤ status.code ∧ status.code < 600 := by
  simp [isServerError]

def asString (status : StatusCode) : String := toString status.code

def ok : StatusCode := ⟨200, by decide⟩
def badRequest : StatusCode := ⟨400, by decide⟩
def notFound : StatusCode := ⟨404, by decide⟩
def tooManyRequests : StatusCode := ⟨429, by decide⟩
def badGateway : StatusCode := ⟨502, by decide⟩
def serviceUnavailable : StatusCode := ⟨503, by decide⟩
def gatewayTimeout : StatusCode := ⟨504, by decide⟩

end StatusCode

structure Response where
  status : StatusCode
  headers : HeaderMap
  body : Bytes
  deriving DecidableEq

def Response.text (status : StatusCode) (text : String) : Response :=
  ⟨status, [], utf8Bytes text⟩

end L7Proxy
