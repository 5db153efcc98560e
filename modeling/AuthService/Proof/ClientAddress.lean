/-
This file proves when the address that is read from the forwarded values is the one that the gateway appended,
and when the rate limiter and the handlers read the same address.
-/

import AuthService.Construction.Input
import AuthService.Encoding.Separators

namespace AuthService

/-- The value that the gateway appends: the peer address, after the text that the client sent if there was one. -/
def gatewayValue (clientText : Option String) (address : String) : String :=
  match clientText with
  | none => address
  | some text => text ++ ", " ++ address

/-- The text of a peer address is not empty, has no comma and no blanks around it. -/
structure PeerAddress (address : String) : Prop where
  nonempty : address ≠ ""
  single : ',' ∉ address.toList
  trimmed : trimSpace address.toList = address.toList

/-- The address that `extractClientInfo` falls back to. -/
def fallbackAddress (ctx : Context) : String :=
  let realIP := match ctx.metadata with
    | some md => (md "x-real-ip").headD ""
    | none => ""
  if realIP = "" then
    match ctx.peer with
    | some address => ((splitHost address.toList).map String.ofList).getD ""
    | none => ""
  else realIP

/-- The address that the forwarded values give. -/
def forwardedAddress (metadata : Option (String → List String)) : String :=
  match metadata with
  | some md =>
      match md "x-forwarded-for" with
      | value :: _ => rightmostPart value
      | [] => ""
  | none => ""

/-- Both readers take the forwarded address and fall back when it is blank. -/
theorem extractIP_eq (ctx : Context) :
    extractIP ctx = if forwardedAddress ctx.metadata = "" then peerIP ctx else forwardedAddress ctx.metadata := rfl

theorem extractClientInfo_eq (ctx : Context) :
    (extractClientInfo ctx).ipAddress =
      if forwardedAddress ctx.metadata = "" then fallbackAddress ctx else forwardedAddress ctx.metadata := by
  obtain ⟨metadata, peer⟩ := ctx
  cases metadata with
  | none => cases peer <;> rfl
  | some md =>
      change (if (if forwardedAddress (some md) = "" then _ else forwardedAddress (some md)) = "" then _ else
        if forwardedAddress (some md) = "" then _ else forwardedAddress (some md)) = _
      by_cases blank : forwardedAddress (some md) = ""
      · rw [if_pos blank, if_pos blank]
        rfl
      · rw [if_neg blank, if_neg blank, if_neg blank]

/-- Only the first forwarded value is read. -/
theorem forwardedAddress_of_first {ctx : Context} {md : String → List String} {first : String} {rest : List String}
    (known : ctx.metadata = some md) (values : md "x-forwarded-for" = first :: rest) :
    forwardedAddress ctx.metadata = rightmostPart first := by
  simp only [forwardedAddress, known, values]

/-- A last part that is not blank is the one that the scan from the right finds. -/
theorem rightmostPart_of_last {value : String} {front : List (List Char)} {last : List Char}
    (parts : value.toList.splitOn ',' = front ++ [last]) (nonblank : trimSpace last ≠ []) :
    rightmostPart value = String.ofList (trimSpace last) := by
  have visible : (trimSpace last).isEmpty = false := by simpa using nonblank
  simp only [rightmostPart, parts, List.reverse_append, List.reverse_singleton, List.singleton_append,
    List.find?_cons, visible, Bool.not_false]

/-- The blank that the gateway writes is trimmed. -/
theorem trimSpace_blank (text : List Char) : trimSpace (' ' :: text) = trimSpace text := by
  simp only [trimSpace, List.dropWhile_cons, show isSpace ' ' = true from rfl, if_true]

/-- The value that the gateway appends gives the peer address, whatever text the client sent in it. -/
theorem rightmostPart_gatewayValue (clientText : Option String) {address : String}
    (trusted : PeerAddress address) : rightmostPart (gatewayValue clientText address) = address := by
  have nonblank : trimSpace address.toList ≠ [] := by
    rw [trusted.trimmed]
    simpa using trusted.nonempty
  cases clientText with
  | none =>
      have parts : (gatewayValue none address).toList.splitOn ',' = [] ++ [address.toList] :=
        List.splitOn_eq_singleton trusted.single
      rw [rightmostPart_of_last parts nonblank, trusted.trimmed, String.ofList_toList]
  | some text =>
      have single : ',' ∉ ' ' :: address.toList := by simpa using trusted.single
      have parts : (gatewayValue (some text) address).toList.splitOn ',' =
          text.toList.splitOn ',' ++ [' ' :: address.toList] := by
        have shape : (gatewayValue (some text) address).toList = text.toList ++ ',' :: ' ' :: address.toList := by
          simp [gatewayValue]
        rw [shape, List.splitOn_append_cons_self, List.splitOn_eq_singleton single]
      rw [← trimSpace_blank] at nonblank
      rw [rightmostPart_of_last parts nonblank, trimSpace_blank, trusted.trimmed, String.ofList_toList]

/-- The server sees the values that the client made the gateway forward and then the value of the gateway.
Both readers return the peer address exactly when there is no value of the client, when the first one
happens to end in that address, or when it is blank and both fallbacks happen to give that address. -/
theorem client_address_trusted_iff (ctx : Context) (md : String → List String) (forwarded : List String)
    (clientText : Option String) (address : String) (known : ctx.metadata = some md)
    (values : md "x-forwarded-for" = forwarded ++ [gatewayValue clientText address])
    (trusted : PeerAddress address) :
    (extractIP ctx = address ∧ (extractClientInfo ctx).ipAddress = address) ↔
      ∀ first ∈ forwarded.head?, rightmostPart first = address ∨
        rightmostPart first = "" ∧ peerIP ctx = address ∧ fallbackAddress ctx = address := by
  cases forwarded with
  | nil =>
      have found := rightmostPart_gatewayValue clientText trusted
      rw [extractIP_eq, extractClientInfo_eq, forwardedAddress_of_first known values, found,
        if_neg trusted.nonempty, if_neg trusted.nonempty]
      simp
  | cons first rest =>
      rw [extractIP_eq, extractClientInfo_eq, forwardedAddress_of_first known values]
      simp only [List.head?_cons, Option.mem_some_iff, forall_eq']
      by_cases blank : rightmostPart first = ""
      · rw [if_pos blank, if_pos blank, blank]
        simp [trusted.nonempty.symm]
      · rw [if_neg blank, if_neg blank]
        simp [blank]

/-- Without a value of its own the client cannot move the address, whatever text it sends. -/
theorem gateway_value_gives_address :
    let ctx : Context := ⟨some fun key => if key = "x-forwarded-for" then ["6.6.6.6, , 1.2.3.4"] else [], none⟩
    extractIP ctx = "1.2.3.4" ∧ (extractClientInfo ctx).ipAddress = "1.2.3.4" := by
  intro ctx
  exact (client_address_trusted_iff ctx _ [] (some "6.6.6.6, ") "1.2.3.4" rfl (by decide)
    ⟨by decide, by decide, by decide⟩).mpr (by simp)

/-- A header that the gateway forwards as metadata gives a first value that the client chose. -/
theorem forwarded_value_forges_address :
    let ctx : Context :=
      ⟨some fun key => if key = "x-forwarded-for" then ["6.6.6.6", gatewayValue none "1.2.3.4"] else [],
        some "127.0.0.1:5000"⟩
    PeerAddress "1.2.3.4" ∧ extractIP ctx = "6.6.6.6" ∧ (extractClientInfo ctx).ipAddress = "6.6.6.6" :=
  ⟨⟨by decide, by decide, by decide⟩, by decide, by decide⟩

/-- The address of a TCP connection. Only a host in brackets has colons. -/
structure TCPAddress where
  host : String
  port : String
  bracketed : Bool
  hostPlain : ∀ symbol ∈ host.toList, symbol ≠ '[' ∧ symbol ≠ ']' ∧ (symbol = ':' → bracketed = true)
  portPlain : ∀ symbol ∈ port.toList, symbol ≠ '[' ∧ symbol ≠ ']' ∧ symbol ≠ ':'

namespace TCPAddress
variable (address : TCPAddress)

/-- The host as it stands before the last colon. -/
def hostText : String := if address.bracketed then "[" ++ address.host ++ "]" else address.host

/-- This is the text of `net.Addr`. -/
def text : String := address.hostText ++ ":" ++ address.port

theorem text_toList : address.text.toList = address.hostText.toList ++ ':' :: address.port.toList := by
  simp [text]

theorem colon_notMem_port : ':' ∉ address.port.toList := fun member => (address.portPlain _ member).2.2 rfl

/-- The interceptors keep the brackets. -/
theorem peerIP_eq (metadata : Option (String → List String)) :
    peerIP ⟨metadata, some address.text⟩ = address.hostText := by
  simp only [peerIP, text_toList, Separators.dropWhile_reverse_last _ address.colon_notMem_port,
    List.reverse_reverse, String.ofList_toList]

/-- The handlers drop the brackets. -/
theorem splitHost_eq : splitHost address.text.toList = some address.host.toList := by
  have openPort : '[' ∉ address.port.toList := fun member => (address.portPlain _ member).1 rfl
  have closePort : ']' ∉ address.port.toList := fun member => (address.portPlain _ member).2.1 rfl
  have openHost : '[' ∉ address.host.toList := fun member => (address.hostPlain _ member).1 rfl
  have closeHost : ']' ∉ address.host.toList := fun member => (address.hostPlain _ member).2.1 rfl
  simp only [splitHost, text_toList, Separators.dropWhile_reverse_last _ address.colon_notMem_port,
    Separators.takeWhile_reverse_last _ address.colon_notMem_port, List.reverse_reverse]
  cases shape : address.bracketed with
  | true =>
      have host : address.hostText.toList = '[' :: (address.host.toList ++ [']']) := by
        simp [hostText, shape]
      simp [host, openPort, closePort, openHost, closeHost]
  | false =>
      have host : address.hostText = address.host := by
        rw [hostText, shape, if_neg Bool.false_ne_true]
      have colon : ':' ∉ address.host.toList := by
        intro member
        cases shape.symm.trans ((address.hostPlain _ member).2.2 rfl)
      rw [host]
      split
      · rename_i inner starts
        exact absurd (starts ▸ List.mem_cons_self) openHost
      · simp [openPort, closePort, openHost, closeHost, colon]

/-- A host in brackets is another text than the host. -/
theorem hostText_eq_host : address.hostText = address.host ↔ address.bracketed = false := by
  cases shape : address.bracketed with
  | true =>
      simp only [hostText, shape, if_true, reduceCtorEq, iff_false]
      intro same
      have longer := congrArg (fun text => text.toList.length) same
      simp only [String.toList_append, List.length_append] at longer
      have one : "[".toList.length = 1 := rfl
      omega
  | false => simp only [hostText, shape, if_neg Bool.false_ne_true]

end TCPAddress

/-- The context of a request over a TCP connection. -/
def tcpContext (metadata : Option (String → List String)) (peer : Option TCPAddress) : Context :=
  ⟨metadata, peer.map TCPAddress.text⟩

/-- The value that only the handlers read. -/
def realAddress (metadata : Option (String → List String)) : String :=
  match metadata with
  | some md => (md "x-real-ip").headD ""
  | none => ""

/-- Without another value the handlers fall back to the host of the peer. -/
theorem fallbackAddress_tcpContext (metadata : Option (String → List String)) (peer : Option TCPAddress) :
    fallbackAddress (tcpContext metadata peer) =
      if realAddress metadata = "" then (peer.map TCPAddress.host).getD "" else realAddress metadata := by
  have host : (match (tcpContext metadata peer).peer with
      | some address => ((splitHost address.toList).map String.ofList).getD ""
      | none => "") = (peer.map TCPAddress.host).getD "" := by
    cases peer with
    | none => rfl
    | some address =>
        simp only [tcpContext, Option.map_some, address.splitHost_eq, Option.getD_some, String.ofList_toList]
  rw [fallbackAddress, host]
  rfl

/-- The hosts that both readers take from the peer are the same text when it has no brackets. -/
theorem peerIP_tcpContext (metadata : Option (String → List String)) (peer : Option TCPAddress) :
    peerIP (tcpContext metadata peer) = (peer.map TCPAddress.host).getD "" ↔
      ∀ address ∈ peer, address.bracketed = false := by
  cases peer with
  | none => exact iff_of_true rfl nofun
  | some address =>
      rw [tcpContext, Option.map_some, address.peerIP_eq]
      simp only [Option.map_some, Option.getD_some, Option.mem_some_iff, forall_eq']
      exact address.hostText_eq_host

/-- The rate limiter and the handlers read the same address exactly when a forwarded address is there, when the
handlers fall back to the peer as well and its host has no brackets, or when the other value is the peer. -/
theorem same_client_iff (metadata : Option (String → List String)) (peer : Option TCPAddress) :
    extractIP (tcpContext metadata peer) = (extractClientInfo (tcpContext metadata peer)).ipAddress ↔
      forwardedAddress metadata ≠ "" ∨
      realAddress metadata = "" ∧ (∀ address ∈ peer, address.bracketed = false) ∨
      realAddress metadata ≠ "" ∧ realAddress metadata = peerIP (tcpContext metadata peer) := by
  rw [extractIP_eq, extractClientInfo_eq, fallbackAddress_tcpContext, ← peerIP_tcpContext metadata]
  change (if forwardedAddress metadata = "" then _ else forwardedAddress metadata) =
    (if forwardedAddress metadata = "" then _ else forwardedAddress metadata) ↔ _
  by_cases blank : forwardedAddress metadata = ""
  · rw [if_pos blank, if_pos blank]
    by_cases absent : realAddress metadata = ""
    · rw [if_pos absent]
      simp [blank, absent]
    · rw [if_neg absent]
      simp [blank, absent, eq_comm]
  · rw [if_neg blank, if_neg blank]
    simp [blank]

/-- The peer is a loopback connection over IPv6. -/
def loopback : TCPAddress where
  host := "::1"
  port := "5000"
  bracketed := true
  hostPlain := by simp
  portPlain := by simp

/-- Without forwarded values an IPv6 peer is limited with its brackets and recorded without them, and a value that
the client chose is recorded for a peer that is limited. -/
theorem client_addresses_differ :
    extractIP (tcpContext none (some loopback)) = "[::1]" ∧
      (extractClientInfo (tcpContext none (some loopback))).ipAddress = "::1" ∧
      let spoofed := tcpContext (some fun key => if key = "x-real-ip" then ["6.6.6.6"] else []) (some loopback)
      extractIP spoofed = "[::1]" ∧ (extractClientInfo spoofed).ipAddress = "6.6.6.6" := by
  decide

end AuthService
