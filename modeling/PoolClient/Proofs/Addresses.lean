import PoolClient.Proofs.Failover
import PoolClient.Proofs.Numerals
import PoolClient.Text.Pieces
/-!
# Addresses of hosts

A master is named by an address: a host, in brackets or not, with a port or not. The host is split
off by its colons and brackets, while `Endpoint.url` puts brackets around a host that holds colons.
The two agree (`withHost_reads_back`): what a URL shows between scheme and path is read back as the
host and the port of the endpoint, and an address without a port as a host as a whole.
-/

namespace PoolClient

open Number

/-! ## Ports -/

/-- A numeral up to the limit is read as the number that it writes. -/
theorem Number.natural?_digits {limit n : Nat} (h : n ≤ limit) :
    natural? limit (digits n) = some n := by
  unfold natural?
  split
  · rename_i rest hplus
    exact absurd (isDigit_of_mem_digits n '+' (by simp [hplus])) (by decide)
  · simp [isNumeral_digits, natOfDigits_digits, h]

namespace Endpoint

variable {mark : Char} {cs host rest : List Char}

/-- A port is read as it is written. -/
theorem port?_digits {port : Nat} (h : port ≤ 65535) : port? (digits port) = some port :=
  natural?_digits h

/-- Only digits stand in a port. -/
theorem not_mem_digits {c : Char} (hc : c.isDigit = false) (n : Nat) : c ∉ digits n := by
  intro hmem
  rw [isDigit_of_mem_digits n c hmem] at hc
  cases hc

/-! ## Splitting an address -/

theorem splitFirst_append (hcs : mark ∉ cs) (rest : List Char) :
    splitFirst mark (cs ++ mark :: rest) = some (cs, rest) := by
  have hbefore := Text.bne_of_not_mem hcs
  rw [splitFirst, List.dropWhile_append_of_pos hbefore, List.takeWhile_append_of_pos hbefore]
  simp

/-- The first mark is where the address is split. -/
theorem eq_of_splitFirst (h : splitFirst mark cs = some (host, rest)) :
    cs = host ++ mark :: rest ∧ mark ∉ host := by
  by_cases hmem : mark ∈ cs
  · obtain ⟨before, after, rfl, hbefore⟩ := List.eq_append_cons_of_mem hmem
    rw [splitFirst_append hbefore] at h
    obtain ⟨rfl, rfl⟩ := Prod.mk.inj (Option.some.inj h)
    exact ⟨rfl, hbefore⟩
  · rw [splitFirst_eq_none fun c hc => ne_of_mem_of_not_mem hc hmem] at h
    cases h

/-- Without a colon, and with several of them, an address is a host as a whole. -/
theorem splitPlain_of_count_ne_one (h : cs.count ':' ≠ 1) : splitPlain cs = (cs, none) := by
  unfold splitPlain
  split
  · rename_i host rest hsplit
    obtain ⟨rfl, hhost⟩ := eq_of_splitFirst hsplit
    have hrest : ':' ∈ rest := by
      rw [List.count_append, List.count_eq_zero.2 hhost, List.count_cons_self] at h
      exact List.count_pos_iff.1 (by omega)
    simp [hrest]
  · rfl

/-- A port follows the only colon. -/
theorem splitPlain_port {port : Nat} (hhost : ':' ∉ host) (hport : port ≤ 65535) :
    splitPlain (host ++ ':' :: digits port) = (host, some port) := by
  simp [splitPlain, splitFirst_append hhost, not_mem_digits (c := ':') rfl, port?_digits hport]

/-- An address without brackets is split by its colons alone. -/
theorem splitAddress_of_not_mem (h : '[' ∉ cs) : splitAddress cs = splitPlain cs := by
  unfold splitAddress
  split
  · exact absurd (List.mem_cons_self) h
  · rfl

/-- Brackets enclose a host as a whole. -/
theorem splitAddress_bracketed (hhost : ']' ∉ host) :
    splitAddress ('[' :: host ++ [']']) = (host, none) := by
  simp [splitAddress, splitFirst_append hhost]

/-- A port follows the brackets and a colon. -/
theorem splitAddress_bracketed_port {port : Nat} (hhost : ']' ∉ host) (hport : port ≤ 65535) :
    splitAddress ('[' :: host ++ ']' :: ':' :: digits port) = (host, some port) := by
  simp [splitAddress, splitFirst_append hhost, port?_digits hport]

/-! ## Reading a host back -/

/-- A host without brackets. -/
def Unbracketed (host : String) : Prop :=
  '[' ∉ host.toList ∧ ']' ∉ host.toList

instance (host : String) : Decidable (Unbracketed host) :=
  inferInstanceAs (Decidable (_ ∧ _))

/-- The host and the port of an endpoint as an address. A host that holds colons is put in
brackets. -/
def authority (e : Endpoint) : String :=
  (if ':' ∈ e.host.toList then "[" ++ e.host ++ "]" else e.host) ++ ":" ++ naturalText e.port

/-- A URL shows the address between scheme and path. -/
theorem url_eq_authority {e : Endpoint} (h : Unbracketed e.host) :
    e.url = e.scheme ++ "://" ++ e.authority ++ e.path := by
  have hhead : e.host.toList.head? ≠ some '[' := fun hhead => h.1 (List.mem_of_head? hhead)
  have hhost : urlHost e.host = if ':' ∈ e.host.toList then "[" ++ e.host ++ "]" else e.host := by
    simp [urlHost, hhead]
  simp only [url, authority, hhost, String.append_assoc]

theorem splitAddress_authority {e : Endpoint} (hhost : Unbracketed e.host)
    (hport : e.port ≤ 65535) :
    splitAddress e.authority.toList = (e.host.toList, some e.port) := by
  by_cases hcolon : ':' ∈ e.host.toList
  · rw [authority, if_pos hcolon]
    simpa [naturalText] using splitAddress_bracketed_port hhost.2 hport
  · have hbracket : '[' ∉ e.host.toList ++ ':' :: digits e.port := by
      simp [hhost.1, not_mem_digits (c := '[') rfl]
    rw [authority, if_neg hcolon, ← splitPlain_port hcolon hport,
      ← splitAddress_of_not_mem hbracket]
    simp [naturalText]

theorem withHost_of_split (b : Endpoint) {address host : String} {port : Option Nat}
    (h : splitAddress address.toList = (host.toList, port)) :
    b.withHost address = { b with host := host, port := port.getD b.port } := by
  rw [withHost, h]
  simp

/-- The host of a master is read back from its address. An address that is printed as in a URL gives
host and port, a host in brackets gives the host and no port, and so does a host without brackets
unless it holds a single colon. Scheme and path are kept whatever the address, and to move there a
second time changes nothing. -/
theorem withHost_reads_back (b : Endpoint) :
    (∀ e : Endpoint, Unbracketed e.host → e.port ≤ 65535 →
      e.url = e.scheme ++ "://" ++ e.authority ++ e.path ∧
        b.withHost e.authority = { b with host := e.host, port := e.port }) ∧
    (∀ host, Unbracketed host →
      b.withHost ("[" ++ host ++ "]") = { b with host := host } ∧
        (host.toList.count ':' ≠ 1 → b.withHost host = { b with host := host })) ∧
    ∀ address,
      (b.withHost address).tls = b.tls ∧ (b.withHost address).path = b.path ∧
        (b.withHost address).withHost address = b.withHost address := by
  refine ⟨fun e hhost hport => ⟨url_eq_authority hhost, ?_⟩,
    fun host hhost => ⟨?_, fun hcount => ?_⟩, fun address => ⟨rfl, rfl, ?_⟩⟩
  · exact b.withHost_of_split (splitAddress_authority hhost hport)
  · have hbracketed : ("[" ++ host ++ "]").toList = '[' :: host.toList ++ [']'] := by simp
    exact b.withHost_of_split (hbracketed ▸ splitAddress_bracketed hhost.2)
  · exact b.withHost_of_split
      ((splitAddress_of_not_mem hhost.1).trans (splitPlain_of_count_ne_one hcount))
  · cases hport : (splitAddress address.toList).2 <;> simp [withHost, hport]

/-- A short IPv6 address, as it is printed with its port, in brackets, and bare. -/
theorem withHost_reads_back_short :
    let b : Endpoint := ⟨"a", 8443, true, "/p"⟩
    let e : Endpoint := ⟨"::1", 80, false, "/"⟩
    e.url = "http://" ++ e.authority ++ "/" ∧ e.authority = "[::1]:80" ∧
      b.withHost "[::1]:80" = ⟨"::1", 80, true, "/p"⟩ ∧
      b.withHost "[::1]" = ⟨"::1", 8443, true, "/p"⟩ ∧
      b.withHost "::1" = ⟨"::1", 8443, true, "/p"⟩ := by
  intro b e
  have hauthority : e.authority = "[::1]:80" := by
    simp [authority, e, naturalText, digits, digit]
  obtain ⟨hprinted, hhosts, -⟩ := withHost_reads_back b
  obtain ⟨hurl, hmoved⟩ := hprinted e (by decide) (by decide)
  obtain ⟨hbracketed, hbare⟩ := hhosts "::1" (by decide)
  exact ⟨hurl, hauthority, hauthority ▸ hmoved, hbracketed, hbare (by decide)⟩

end Endpoint

end PoolClient
