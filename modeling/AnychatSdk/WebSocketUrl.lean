import AnychatSdk.Lib.Substring
import AnychatSdk.RequestTargets
import AnychatSdk.TimestampText

/-!
# The URL of the WebSocket

The client puts the URL together from the address of the gateway and the token,
and the socket takes it apart again to find host, port and path.  The port is what
follows the last colon of the authority, brackets or not.
-/

namespace AnychatSdk

open PercentCode UrlTarget Substring

def colon : UInt8 := 58

/-! ## Taking a URL apart -/

/-- `std::stoi`; `none` stands for its exceptions. -/
def stoi (text : List UInt8) : Option Int32 :=
  match scanInteger ((text.takeWhile (· ≠ 0)).map fun byte => Char.ofNat byte.toNat) with
  | none => none
  | some (value, _) =>
      if value < Int32.minValue.toInt ∨ Int32.maxValue.toInt < value then none
      else some (Int32.ofInt value)

/-- What `parse_url` sets. -/
structure ParsedUrl where
  useSsl : Bool
  host : List UInt8
  port : Int32
  path : List UInt8

namespace ParsedUrl

/-- The first half of `parse_url`: what stands between the scheme and the path, and the
path.  `npos + 3` wraps to 2. -/
def splitPath? (url : List UInt8) : Option (List UInt8 × List UInt8) :=
  let schemeEnd := (find? (bytesOf "://") url 0).elim 2 (· + 3)
  match find? [slash] url schemeEnd with
  | none => (substr? url schemeEnd).map fun host => (host, [slash])
  | some pathStart => some ((url.take pathStart).drop schemeEnd, url.drop pathStart)

/-- The second half: host and port. -/
def splitPort? (useSsl : Bool) (host : List UInt8) : Option (List UInt8 × Int32) :=
  match rfind? colon host with
  | some position =>
      (stoi (host.drop (position + 1))).map fun port => (host.take position, port)
  | none => some (host, if useSsl then 443 else 80)

/-- `WebSocketClient::Impl::parse_url`. -/
def parse? (url : List UInt8) : Option ParsedUrl := do
  let useSsl := decide (url.take 6 = bytesOf "wss://")
  let (host, path) ← splitPath? url
  let (host, port) ← splitPort? useSsl host
  pure { useSsl, host, port, path }

end ParsedUrl

/-! ## Gateways -/

/-- Unreserved characters, percent signs and the delimiters within a component. -/
def isNameByte (byte : UInt8) : Bool :=
  isListedUnreserved byte || byte == percent || byte ∈ bytesOf "!$&'()*+,;="

/-- Hexadecimal digits, colons and dots. -/
def isAddressByte (byte : UInt8) : Bool :=
  byte ∈ bytesOf "0123456789abcdefABCDEF:."

inductive Host where
  /-- A registered name or an IPv4 address; both have the same characters. -/
  | name (text : List UInt8) (nonempty : text ≠ [])
      (nameBytes : ∀ byte ∈ text, isNameByte byte = true)
  /-- An IPv6 address, in brackets. -/
  | literal (address : List UInt8) (hasColon : colon ∈ address)
      (addressBytes : ∀ byte ∈ address, isAddressByte byte = true)

namespace Host

def text : Host → List UInt8
  | name text _ _ => text
  | literal address _ _ => '['.toUInt8 :: (address ++ [']'.toUInt8])

def IsLiteral : Host → Prop
  | name .. => False
  | literal .. => True

end Host

/-- A port as it is written. -/
structure Port where
  digits : List Char
  areDigits : ∀ char ∈ digits, char.isDigit = true
  positive : 0 < Nat.ofDigitChars 10 digits 0
  bounded : Nat.ofDigitChars 10 digits 0 < 65536

namespace Port

def number (port : Port) : Nat :=
  Nat.ofDigitChars 10 port.digits 0

def text (port : Port) : List UInt8 :=
  port.digits.map Char.toUInt8

end Port

/-- The address of a gateway in its parts. -/
structure Gateway where
  secure : Bool
  host : Host
  port : Option Port
  path : List UInt8
  rooted : path ≠ [] → path.head? = some slash
  inPath : InPath path

namespace Gateway

def scheme (gateway : Gateway) : List UInt8 :=
  if gateway.secure then bytesOf "wss://" else bytesOf "ws://"

def authority (gateway : Gateway) : List UInt8 :=
  gateway.host.text ++ gateway.port.elim [] fun port => colon :: port.text

def url (gateway : Gateway) : List UInt8 :=
  gateway.scheme ++ (gateway.authority ++ gateway.path)

def portNumber (gateway : Gateway) : Nat :=
  gateway.port.elim (if gateway.secure then 443 else 80) Port.number

end Gateway

/-- The token as it stands in the query. -/
def tokenSuffix (token : List UInt8) : List UInt8 :=
  if token = [] then [] else bytesOf "?token=" ++ token

/-- The parts are those of the gateway, and the endpoint follows the path behind one slash:
`front` is the path without its last slash and has none at its end. -/
structure ParsedUrl.IsOf (gateway : Gateway) (token : List UInt8) (parsed : ParsedUrl) : Prop where
  useSsl : parsed.useSsl = gateway.secure
  host : parsed.host = gateway.host.text
  port : parsed.port.toInt = gateway.portNumber
  path : ∃ front, parsed.path = front ++ slash :: (bytesOf "api/v1/ws" ++ tokenSuffix token) ∧
    (gateway.path = front ∨ gateway.path = front ++ [slash]) ∧ front.getLast? ≠ some slash

/-- The URL built for a gateway and a token is taken apart into what it was built from. -/
def Gateway.ParsesBack (gateway : Gateway) (token : List UInt8) : Prop :=
  ∃ parsed, ParsedUrl.parse? (wsUrl gateway.url token) = some parsed ∧ parsed.IsOf gateway token

/-- The last colon of the authority stands before a port if there is one, and the path does
not end in two slashes. -/
structure Gateway.IsClear (gateway : Gateway) : Prop where
  lastColon : gateway.host.IsLiteral → gateway.port.isSome
  lastSlash : ¬[slash, slash] <:+ gateway.path

/-! ## Bytes of the parts -/

theorem Host.slash_not_mem (host : Host) : slash ∉ host.text := by
  have notName : isNameByte slash = false := by decide
  have notAddress : isAddressByte slash = false := by decide
  cases host with
  | name text nonempty nameBytes =>
      intro member
      simp [nameBytes slash member] at notName
  | literal address hasColon addressBytes =>
      intro member
      have brackets : slash ≠ '['.toUInt8 ∧ slash ≠ ']'.toUInt8 := by decide
      rw [Host.text, List.mem_cons, List.mem_append, List.mem_singleton] at member
      rcases member with opening | inside | closing
      · exact brackets.1 opening
      · simp [addressBytes slash inside] at notAddress
      · exact brackets.2 closing

theorem Host.text_ne_nil (host : Host) : host.text ≠ [] := by
  cases host with
  | name text nonempty nameBytes => exact nonempty
  | literal address hasColon addressBytes => exact List.cons_ne_nil _ _

theorem toNat_toUInt8_of_isDigit {char : Char} (digit : char.isDigit = true) :
    char.toUInt8.toNat = char.toNat ∧ 48 ≤ char.toNat ∧ char.toNat ≤ 57 := by
  simp only [Char.isDigit, Bool.and_eq_true, decide_eq_true_eq] at digit
  have lower : 48 ≤ char.toNat := UInt32.le_iff_toNat_le.mp digit.1
  have upper : char.toNat ≤ 57 := UInt32.le_iff_toNat_le.mp digit.2
  have small : char.toUInt8.toNat = char.toNat := by
    rw [Char.toUInt8, UInt32.toNat_toUInt8]
    exact Nat.mod_eq_of_lt (by change char.toNat < 256; omega)
  exact ⟨small, lower, upper⟩

namespace Port

variable (port : Port)

theorem toNat_of_mem {byte : UInt8} (member : byte ∈ port.text) :
    48 ≤ byte.toNat ∧ byte.toNat ≤ 57 := by
  rcases List.mem_map.mp member with ⟨char, inDigits, rfl⟩
  have digit := toNat_toUInt8_of_isDigit (port.areDigits char inDigits)
  omega

theorem colon_not_mem : colon ∉ port.text := by
  intro member
  have digit := port.toNat_of_mem member
  exact absurd digit (by decide)

theorem slash_not_mem : slash ∉ port.text := by
  intro member
  have digit := port.toNat_of_mem member
  exact absurd digit (by decide)

theorem digits_ne_nil : port.digits ≠ [] := by
  intro noDigits
  have positive := port.positive
  rw [noDigits] at positive
  exact absurd positive (by decide)

theorem stoi_text : stoi port.text = some (Int32.ofInt port.number) := by
  have noNul : port.text.takeWhile (· ≠ 0) = port.text := by
    rw [List.takeWhile_eq_self_iff]
    intro byte member
    have digit := port.toNat_of_mem member
    refine decide_eq_true ?_
    rintro rfl
    exact absurd digit (by decide)
  have back : port.text.map (fun byte => Char.ofNat byte.toNat) = port.digits := by
    rw [text, List.map_map]
    refine (List.map_congr_left ?_).trans (List.map_id _)
    intro char member
    have digit := toNat_toUInt8_of_isDigit (port.areDigits char member)
    simp [digit.1, Char.ofNat_toNat]
  have scanned : scanInteger port.digits = some ((port.number : Int), []) := by
    have withNothing := scanInteger_append port.digits_ne_nil port.areDigits
      (show StopsNumber [] by simp [StopsNumber])
    rwa [List.append_nil] at withNothing
  have small : port.number < 65536 := port.bounded
  have inRange : ¬((port.number : Int) < Int32.minValue.toInt ∨
      Int32.maxValue.toInt < (port.number : Int)) := by
    have bounds : Int32.minValue.toInt = -2147483648 ∧
        Int32.maxValue.toInt = 2147483647 := by decide
    omega
  rw [stoi, noNul, back, scanned]
  exact if_neg inRange

end Port

/-! ## Host and port -/

theorem splitPort?_of_last {front digits : List UInt8} (lastColon : colon ∉ digits)
    (useSsl : Bool) :
    ParsedUrl.splitPort? useSsl (front ++ colon :: digits) =
      (stoi digits).map fun port => (front, port) := by
  have place := rfind?_append lastColon front
  have behind : (front ++ colon :: digits).drop (front.length + 1) = digits :=
    List.drop_length_add_append 1
  simp [ParsedUrl.splitPort?, place, behind]

namespace Gateway

variable (gateway : Gateway)

theorem slash_not_mem_authority : slash ∉ gateway.authority := by
  have different : slash ≠ colon := by decide
  rw [authority]
  cases gateway.port with
  | none => simpa using gateway.host.slash_not_mem
  | some port => simpa using ⟨gateway.host.slash_not_mem, different, port.slash_not_mem⟩

/-- With a clear last colon the authority is taken apart as it was written. -/
theorem splitPort?_authority (clear : gateway.host.IsLiteral → gateway.port.isSome) :
    ParsedUrl.splitPort? gateway.secure gateway.authority =
      some (gateway.host.text, Int32.ofInt gateway.portNumber) := by
  rw [authority, portNumber]
  cases given : gateway.port with
  | some port =>
      change ParsedUrl.splitPort? _ (gateway.host.text ++ colon :: port.text) = _
      rw [splitPort?_of_last port.colon_not_mem, port.stoi_text]
      rfl
  | none =>
      have noColon : colon ∉ gateway.host.text := by
        have notName : isNameByte colon = false := by decide
        cases isHost : gateway.host with
        | name text nonempty nameBytes =>
            intro member
            simp [nameBytes colon member] at notName
        | literal address hasColon addressBytes =>
            rw [isHost, given] at clear
            exact absurd (clear trivial) (by decide)
      change ParsedUrl.splitPort? _ (gateway.host.text ++ []) = _
      rw [List.append_nil, ParsedUrl.splitPort?, rfind?_eq_none_iff.mpr noColon]
      cases gateway.secure with
      | false => rfl
      | true => rfl

/-- A bracketed address without a port is cut within the brackets. -/
theorem host_ne_of_literal (isLiteral : gateway.host.IsLiteral) (noPort : gateway.port = none)
    {host : List UInt8} {port : Int32}
    (splits : ParsedUrl.splitPort? gateway.secure gateway.authority = some (host, port)) :
    host ≠ gateway.host.text := by
  have isHost : gateway.authority = gateway.host.text := by
    rw [authority, noPort]
    exact List.append_nil _
  have occurs : colon ∈ gateway.host.text := by
    cases isHost : gateway.host with
    | name =>
        rw [isHost] at isLiteral
        exact isLiteral.elim
    | literal address hasColon addressBytes =>
        exact List.mem_cons_of_mem _ (List.mem_append_left _ hasColon)
  rcases exists_last_of_mem occurs with ⟨front, rest, whole, lastColon⟩
  rw [isHost, whole, splitPort?_of_last lastColon] at splits
  rcases Option.map_eq_some_iff.mp splits with ⟨number, _, same⟩
  obtain rfl : front = host := congrArg Prod.fst same
  rw [whole]
  simp

/-! ## The path -/

/-- The path that the socket is to ask for. -/
def webSocketPath (token : List UInt8) : List UInt8 :=
  (if gateway.path.getLast? = some slash then gateway.path else gateway.path ++ [slash]) ++
    (bytesOf "api/v1/ws" ++ tokenSuffix token)

theorem authority_ne_nil : gateway.authority ≠ [] :=
  List.append_ne_nil_of_left_ne_nil gateway.host.text_ne_nil _

/-- The last byte of the URL is that of the path if there is a path, and no slash if there
is none. -/
theorem getLast?_url : gateway.url.getLast? = some slash ↔ gateway.path.getLast? = some slash := by
  have nonempty : gateway.authority ++ gateway.path ≠ [] :=
    List.append_ne_nil_of_left_ne_nil gateway.authority_ne_nil _
  rw [url, List.getLast?_append_of_ne_nil _ nonempty]
  by_cases noPath : gateway.path = []
  · rw [noPath, List.append_nil]
    constructor
    · intro last
      exact absurd (List.mem_of_getLast? last) gateway.slash_not_mem_authority
    · intro last
      exact absurd last (by simp)
  · rw [List.getLast?_append_of_ne_nil _ noPath]

theorem wsUrl_url (token : List UInt8) :
    wsUrl gateway.url token =
      gateway.scheme ++ (gateway.authority ++ gateway.webSocketPath token) := by
  have nonempty : gateway.url ≠ [] :=
    List.append_ne_nil_of_right_ne_nil _
      (List.append_ne_nil_of_left_ne_nil gateway.authority_ne_nil _)
  have suffix : ∀ front : List UInt8,
      (if token ≠ [] then front ++ bytesOf "?token=" ++ token else front) =
        front ++ tokenSuffix token := by
    intro front
    by_cases noToken : token = []
    · simp [tokenSuffix, noToken]
    · simp [tokenSuffix, noToken]
  rw [wsUrl, suffix]
  by_cases ends : gateway.path.getLast? = some slash
  · have complete : ¬(gateway.url ≠ [] ∧ gateway.url.getLast? ≠ some slash) :=
      fun incomplete => incomplete.2 (gateway.getLast?_url.mpr ends)
    rw [if_neg complete, webSocketPath, if_pos ends, url]
    simp only [List.append_assoc]
  · have incomplete : gateway.url ≠ [] ∧ gateway.url.getLast? ≠ some slash :=
      ⟨nonempty, mt gateway.getLast?_url.mp ends⟩
    rw [if_pos incomplete, webSocketPath, if_neg ends, url]
    simp only [List.append_assoc]

theorem webSocketPath_rooted (token : List UInt8) :
    ∃ rest, gateway.webSocketPath token = slash :: rest := by
  rw [webSocketPath]
  by_cases noPath : gateway.path = []
  · rw [noPath]
    exact ⟨_, rfl⟩
  · rcases List.head?_eq_some_iff.mp (gateway.rooted noPath) with ⟨rest, path⟩
    rw [path]
    split
    · exact ⟨_, rfl⟩
    · exact ⟨_, rfl⟩

/-- One slash stands before the endpoint unless the path ends in two. -/
theorem oneSlash_iff (token : List UInt8) :
    (∃ front, gateway.webSocketPath token =
        front ++ slash :: (bytesOf "api/v1/ws" ++ tokenSuffix token) ∧
      (gateway.path = front ∨ gateway.path = front ++ [slash]) ∧ front.getLast? ≠ some slash) ↔
      ¬[slash, slash] <:+ gateway.path := by
  constructor
  · rintro ⟨front, _, isPath, noSlash⟩ ⟨before, ends⟩
    rcases isPath with same | same
    · exact noSlash (by rw [← same, ← ends]; simp)
    · have cut : before ++ [slash] = front := by
        have together : before ++ [slash] ++ [slash] = front ++ [slash] := by
          rw [← same, ← ends]
          simp
        exact List.append_cancel_right together
      exact noSlash (by rw [← cut]; simp)
  · intro oneSlash
    rw [webSocketPath]
    by_cases ends : gateway.path.getLast? = some slash
    · rcases List.getLast?_eq_some_iff.mp ends with ⟨front, path⟩
      refine ⟨front, ?_, Or.inr path, ?_⟩
      · rw [if_pos ends, path, List.append_assoc]
        rfl
      · intro again
        rcases List.getLast?_eq_some_iff.mp again with ⟨before, cut⟩
        exact oneSlash ⟨before, by rw [path, cut]; simp⟩
    · refine ⟨gateway.path, ?_, Or.inl rfl, ends⟩
      rw [if_neg ends, List.append_assoc]
      rfl

/-! ## The whole URL -/

theorem splitPath?_url {authority rest : List UInt8} (noSlash : slash ∉ authority) :
    ParsedUrl.splitPath? (gateway.scheme ++ (authority ++ slash :: rest)) =
      some (authority, slash :: rest) := by
  have separator : bytesOf "://" = colon :: [slash, slash] := by decide
  have schemeText : ∃ front, gateway.scheme = front ++ bytesOf "://" ∧ colon ∉ front := by
    have plain : colon ∉ bytesOf "ws" := by decide
    have encrypted : colon ∉ bytesOf "wss" := by decide
    rw [scheme]
    cases gateway.secure with
    | false => exact ⟨bytesOf "ws", by decide, plain⟩
    | true => exact ⟨bytesOf "wss", by decide, encrypted⟩
  rcases schemeText with ⟨front, isScheme, noColon⟩
  have schemeEnd : (find? (bytesOf "://") (gateway.scheme ++ (authority ++ slash :: rest)) 0).elim
      2 (· + 3) = gateway.scheme.length := by
    rw [isScheme, List.append_assoc, separator,
      find?_append_of_not_mem (Nat.zero_le _) (by simpa using noColon)]
    simp
  have pathStart :
      find? [slash] (gateway.scheme ++ (authority ++ slash :: rest)) gateway.scheme.length =
        some (gateway.scheme ++ authority).length := by
    rw [← List.append_assoc]
    exact find?_append_of_not_mem (by simp) (by simpa using noSlash) [] rest
  rw [ParsedUrl.splitPath?, schemeEnd, pathStart]
  simp [← List.append_assoc]

theorem useSsl_url (rest : List UInt8) :
    decide ((gateway.scheme ++ rest).take 6 = bytesOf "wss://") = gateway.secure := by
  rw [scheme]
  cases gateway.secure with
  | false =>
      refine decide_eq_false ?_
      intro same
      change (bytesOf "ws://" ++ rest).take 6 = _ at same
      have third : ((bytesOf "ws://" ++ rest).take 6)[2]? = some colon := by
        rw [List.getElem?_take_of_lt (by decide), List.getElem?_append_left (by decide)]
        decide
      rw [same] at third
      exact absurd third (by decide)
  | true =>
      have sixBytes : (bytesOf "wss://").length = 6 := by decide
      exact decide_eq_true (List.take_left' sixBytes)

theorem portNumber_lt : gateway.portNumber < 65536 := by
  rw [portNumber]
  cases gateway.port with
  | some port => exact port.bounded
  | none =>
      change (if gateway.secure then 443 else 80) < 65536
      split
      · decide
      · decide

theorem parse?_wsUrl (token : List UInt8) :
    ParsedUrl.parse? (wsUrl gateway.url token) =
      (ParsedUrl.splitPort? gateway.secure gateway.authority).map fun split =>
        ⟨gateway.secure, split.1, split.2, gateway.webSocketPath token⟩ := by
  rcases gateway.webSocketPath_rooted token with ⟨rest, path⟩
  rw [gateway.wsUrl_url, ParsedUrl.parse?, useSsl_url, path,
    gateway.splitPath?_url gateway.slash_not_mem_authority]
  cases splits : ParsedUrl.splitPort? gateway.secure gateway.authority with
  | none => simp [splits]
  | some split => simp [splits]

/-- A gateway and a token are read back from their URL exactly if the last colon is clear
and the path does not end in two slashes. -/
theorem parsesBack_iff_isClear (token : List UInt8) :
    gateway.ParsesBack token ↔ gateway.IsClear := by
  rw [ParsesBack, parse?_wsUrl]
  constructor
  · rintro ⟨parsed, parses, isOf⟩
    rcases Option.map_eq_some_iff.mp parses with ⟨split, splits, rfl⟩
    constructor
    · intro isLiteral
      by_contra noPort
      exact gateway.host_ne_of_literal isLiteral (Option.not_isSome_iff_eq_none.mp noPort) splits
        isOf.host
    · exact (gateway.oneSlash_iff token).mp isOf.path
  · intro clear
    have splits := gateway.splitPort?_authority clear.lastColon
    have small := gateway.portNumber_lt
    refine ⟨_, Option.map_eq_some_iff.mpr ⟨_, splits, rfl⟩, ?_⟩
    constructor
    · rfl
    · rfl
    · exact Int32.toInt_ofInt_of_le (by omega) (by omega)
    · exact (gateway.oneSlash_iff token).mpr clear.lastSlash

end Gateway

/-- `wss://[::1]` -/
def loopbackGateway : Gateway where
  secure := true
  host := .literal (bytesOf "::1") (by decide) (List.all_eq_true.mp (by decide))
  port := none
  path := []
  rooted := fun noPath => absurd rfl noPath
  inPath := ⟨List.not_mem_nil, List.not_mem_nil⟩

/-- A bracketed address without a port is cut at its last colon. -/
theorem not_parsesBack_loopback : ¬loopbackGateway.ParsesBack [] := by
  rintro ⟨parsed, parses, isOf⟩
  have isLiteral : loopbackGateway.host.IsLiteral := trivial
  rw [Gateway.parse?_wsUrl] at parses
  rcases Option.map_eq_some_iff.mp parses with ⟨split, splits, rfl⟩
  exact loopbackGateway.host_ne_of_literal isLiteral rfl splits isOf.host

end AnychatSdk
