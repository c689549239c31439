import PoolClient.Proofs.Addresses
import PoolClient.Proofs.DomainNames
import PoolClient.Proofs.NormalPaths
import PoolClient.Url.Endpoint
/-!
# Normal URLs

The host that is read from a URL is normal (`Host.Normal`), and so is its path. A URL that is put
together from a normal host, a port and a normal path is read as it is (`location?_webText`), so
that the URL of an endpoint that was read gives this endpoint again (`Endpoint.parse_url`), although
brackets around the host are dropped by the reader and put back by the writer for different reasons.
-/

namespace PoolClient

open Number Text

namespace Url

/-! ## Hosts -/

/-- What is known of a host that was read. -/
def Host.Normal : Host → Prop
  | .name text => text ≠ [] ∧ endsInNumber text = false ∧ AsciiName text
  | .ipv4 address => address < 256 ^ 4
  | .ipv6 pieces => IsIpv6 pieces

/-- If the host is a name, it is looked up as it is. -/
def Host.Settled : Host → Prop
  | .name text => asciiDomain? text = some text
  | _ => True

/-- The host as it stands in a URL. -/
def Host.written : Host → List Char
  | .ipv6 pieces => '[' :: ipv6Text pieces ++ [']']
  | host => host.text

/-- Every host that is read is normal. -/
theorem normal_of_host? {cs : List Char} {host : Host} (h : host? cs = some host) :
    host.Normal := by
  unfold host? at h
  split at h
  · rename_i rest
    obtain ⟨ps, hps, rfl⟩ := Option.map_eq_some_iff.1 h
    unfold bracketed? at hps
    split at hps
    · exact isIpv6_of_ipv6? hps
    · cases hps
  · split at h
    · cases h
    · rename_i name hname
      obtain ⟨characters, -, hascii⟩ := Option.bind_eq_some_iff.1 hname
      split at h
      · cases h
      · rename_i hempty
        split at h
        · obtain ⟨n, hn, rfl⟩ := Option.map_eq_some_iff.1 h
          exact lt_of_ipv4? hn
        · rename_i hnumber
          cases h
          exact ⟨by simpa using hempty, by simpa using hnumber, asciiName_of_asciiDomain? hascii⟩

theorem asciiName_ipv4Text (n : Nat) : AsciiName (ipv4Text n) := by
  have hdigit : ∀ d : Fin 10, Punycode.isBasic (digit d) = true ∧
      isForbiddenInDomain (digit d) = false := by decide
  intro c hc
  rcases mem_ipv4Text hc with rfl | ⟨m, hm⟩
  · decide
  · obtain ⟨d, rfl⟩ := mem_digits hm
    exact hdigit d

theorem isOrdinary_ipv4Text (n : Nat) : isOrdinary (ipv4Text n) = true := by
  refine isOrdinary_iff.2 ⟨fun c hc => ?_, fun label hlabel => ?_⟩
  · have hdigit : ∀ d : Fin 10, (digit d).toLower = digit d := by decide
    rcases mem_ipv4Text hc with rfl | ⟨m, hm⟩
    · rfl
    · obtain ⟨d, rfl⟩ := mem_digits hm
      exact hdigit d
  · have hdigit : ∀ d : Fin 10, ('x' == digit d) = false := by decide
    rw [pieces_ipv4Text] at hlabel
    obtain ⟨m, -, rfl⟩ := List.mem_map.1 hlabel
    obtain ⟨c, cs, hcs⟩ := List.exists_cons_of_ne_nil (digits_ne_nil m)
    obtain ⟨d, rfl⟩ := mem_digits (hcs ▸ List.mem_cons_self)
    have hmark : encodedMark = ['x', 'n', '-', '-'] := rfl
    rw [hcs, hmark, List.isPrefixOf_cons_cons, hdigit d, Bool.false_and]

/-- A name that is looked up as it is stands for itself, unless it ends in a number. -/
theorem host?_of_asciiName {name : List Char} (h : AsciiName name) (hne : name ≠ [])
    (hname : asciiDomain? name = some name) :
    host? name = if endsInNumber name then (ipv4? name).map .ipv4 else some (.name name) := by
  unfold host?
  split
  · exact absurd rfl (h.ne (c := '[') List.mem_cons_self rfl)
  · have hempty : name.isEmpty = false := by simpa using hne
    rw [strict?_unescaped h, Option.bind_some, hname]
    simp [hempty]

/-- A normal host is read as it is written. -/
theorem host?_written {host : Host} (h : host.Normal) (hsettled : host.Settled) :
    host? host.written = some host := by
  cases host with
  | name text =>
    obtain ⟨hne, hnumber, hascii⟩ := h
    have hread := host?_of_asciiName hascii hne hsettled
    rwa [hnumber, if_neg Bool.false_ne_true] at hread
  | ipv4 n =>
    have hascii := asciiName_ipv4Text n
    have hne : ipv4Text n ≠ [] := by simp [ipv4Text]
    have hread := host?_of_asciiName hascii hne
      (asciiDomain?_of_ordinary hascii (isOrdinary_ipv4Text n))
    rwa [endsInNumber_ipv4Text, if_pos rfl, ipv4?_ipv4Text h] at hread
  | ipv6 ps =>
    have hbracketed : bracketed? (ipv6Text ps ++ [']']) = some ps := by
      simp [bracketed?, ipv6?_ipv6Text h]
    have hread : host? ('[' :: (ipv6Text ps ++ [']'])) =
        (bracketed? (ipv6Text ps ++ [']'])).map .ipv6 := rfl
    rw [Host.written, List.cons_append, hread, hbracketed]
    rfl

/-- What may stand in a name stands in a host that was read, or a colon. -/
theorem mem_text_of_normal {host : Host} {c : Char} (h : host.Normal) (hc : c ∈ host.text) :
    isForbiddenInDomain c = false ∨ c = ':' := by
  cases host with
  | name text => exact .inl (h.2.2 c hc).2
  | ipv4 n => exact .inl (asciiName_ipv4Text n c hc).2
  | ipv6 ps =>
    have hdigit : ∀ d : Fin 16, isForbiddenInDomain (Text.hexDigit d) = false := by decide
    rcases mem_ipv6Text hc with rfl | ⟨p, hp⟩
    · exact .inr rfl
    · obtain ⟨d, rfl⟩ := mem_hexadecimal hp
      exact .inl (hdigit d)

theorem not_mem_text {host : Host} {c : Char} (h : host.Normal)
    (hc : isForbiddenInDomain c = true) (hcolon : c ≠ ':') : c ∉ host.text := by
  intro hmem
  rcases mem_text_of_normal h hmem with hstands | heq
  · rw [hstands] at hc
    cases hc
  · exact hcolon heq

theorem text_ne_nil {host : Host} (h : host.Normal) : host.text ≠ [] := by
  cases host with
  | name text => exact h.1
  | ipv4 n => simp [Host.text, ipv4Text]
  | ipv6 ps => exact List.ne_nil_of_mem (colon_mem_ipv6Text h)

/-! ## Schemes -/

/-- Text without spaces and controls needs no cleaning. -/
theorem cleaned_eq_self {cs : List Char} (h : ∀ c ∈ cs, 0x20 < c.toNat) : cleaned cs = cs := by
  have hdrop : ∀ ds : List Char, (∀ c ∈ ds, 0x20 < c.toNat) →
      ds.dropWhile (fun c => c.toNat ≤ 0x20) = ds := by
    intro ds hds
    cases ds with
    | nil => rfl
    | cons d ds =>
      have hd := hds d List.mem_cons_self
      rw [List.dropWhile_cons_of_neg (by simpa using hd)]
  have hfilter : cs.filter (fun c => !(['\t', '\n', '\r'].contains c)) = cs := by
    rw [List.filter_eq_self]
    intro c hc
    have hne : ∀ d : Char, d.toNat ≤ 0x20 → c ≠ d := by
      rintro d hd rfl
      exact absurd (h c hc) (by omega)
    simp [hne '\t' (by decide), hne '\n' (by decide), hne '\r' (by decide)]
  rw [cleaned]
  simp only [hdrop cs h, dropEndWhile, hdrop cs.reverse fun c hc => h c (List.mem_reverse.1 hc),
    List.reverse_reverse, hfilter]

/-- The scheme of a web address. -/
def schemeText (tls : Bool) : List Char :=
  (if tls then "https" else "http").toList

theorem splitScheme?_schemeText (tls : Bool) (cs : List Char) :
    splitScheme? (schemeText tls ++ ':' :: cs) = some (schemeText tls, cs) := by
  cases tls <;> rfl

/-! ## Authorities -/

/-- Host and port as they stand in a URL. -/
def authorityText (host : Host) (port : Nat) : List Char :=
  host.written ++ ':' :: digits port

/-- Between scheme and path stands what may stand in a name, or a colon or bracket. -/
theorem mem_authorityText {host : Host} {port : Nat} {c : Char} (h : host.Normal)
    (hc : c ∈ authorityText host port) :
    isForbiddenInDomain c = false ∨ c = ':' ∨ c = '[' ∨ c = ']' := by
  have hdigit : ∀ d : Fin 10, isForbiddenInDomain (digit d) = false := by decide
  have hwritten : c ∈ host.written → c ∈ host.text ∨ c = '[' ∨ c = ']' := by
    cases host with
    | name text => exact .inl
    | ipv4 n => exact .inl
    | ipv6 ps =>
      intro hc
      rw [Host.written, List.cons_append, List.mem_cons, List.mem_append, List.mem_singleton] at hc
      rcases hc with hc | hc | hc
      · exact .inr (.inl hc)
      · exact .inl hc
      · exact .inr (.inr hc)
  rcases List.mem_append.1 hc with hc | hc
  · rcases hwritten hc with hc | hc
    · exact (mem_text_of_normal h hc).imp_right .inl
    · exact .inr (.inr hc)
  · rcases List.mem_cons.1 hc with rfl | hc
    · exact .inr (.inl rfl)
    · obtain ⟨d, rfl⟩ := mem_digits hc
      exact .inl (hdigit d)

/-- Nothing that stands there ends the authority, or sets a user apart from a host. -/
theorem standsInAuthority {c : Char}
    (h : isForbiddenInDomain c = false ∨ c = ':' ∨ c = '[' ∨ c = ']') :
    0x20 < c.toNat ∧ endsAuthority c = false ∧ c ≠ '@' := by
  rcases h with h | rfl | rfl | rfl
  · have hne : ∀ d, isForbiddenInDomain d = true → c ≠ d := by
      rintro d hd rfl
      rw [h] at hd
      cases hd
    refine ⟨?_, ?_, hne '@' rfl⟩
    · simp only [isForbiddenInDomain, Bool.or_eq_false_iff, decide_eq_false_iff_not] at h
      omega
    · simp [endsAuthority, isSeparator, hne '/' rfl, hne '\\' rfl, hne '?' rfl, hne '#' rfl]
  all_goals decide

/-- Without brackets, and without colons outside brackets, a text belongs to the host. -/
theorem splitPort_append {inside : Bool} {cs : List Char}
    (h : ∀ c ∈ cs, c ≠ '[' ∧ c ≠ ']' ∧ (c = ':' → inside = true)) (rest : List Char) :
    splitPort inside (cs ++ rest) =
      (cs ++ (splitPort inside rest).1, (splitPort inside rest).2) := by
  induction cs with
  | nil => rfl
  | cons c cs ih =>
    obtain ⟨⟨hopen, hclose, hcolon⟩, hcs⟩ := List.forall_mem_cons.1 h
    have hstays : (c == ':' && !inside) = false := by
      cases inside with
      | true => simp
      | false => simpa using fun heq => Bool.false_ne_true (hcolon heq)
    rw [List.cons_append, splitPort, hstays]
    simp [hopen, hclose, ih hcs]

theorem splitPort_asciiName {text : List Char} (h : AsciiName text) (ds : List Char) :
    splitPort false (text ++ ':' :: ds) = (text, some ds) := by
  have hinside : ∀ c ∈ text, c ≠ '[' ∧ c ≠ ']' ∧ (c = ':' → false = true) := fun c hc =>
    ⟨h.ne hc rfl, h.ne hc rfl, fun hcolon => absurd hcolon (h.ne hc rfl)⟩
  rw [splitPort_append hinside]
  simp [splitPort]

/-- The colons between the brackets belong to the host. -/
theorem splitPort_ipv6Text (ps : List Nat) (ds : List Char) :
    splitPort false ('[' :: (ipv6Text ps ++ ']' :: ':' :: ds)) =
      ('[' :: ipv6Text ps ++ [']'], some ds) := by
  have hinside : ∀ c ∈ ipv6Text ps, c ≠ '[' ∧ c ≠ ']' ∧ (c = ':' → true = true) := by
    intro c hc
    rcases mem_ipv6Text hc with rfl | ⟨p, hp⟩
    · decide
    · exact ⟨ne_of_mem_hexadecimal hp rfl, ne_of_mem_hexadecimal hp rfl, fun _ => rfl⟩
  have hopen : ∀ cs, splitPort false ('[' :: cs) =
      ('[' :: (splitPort true cs).1, (splitPort true cs).2) := fun _ => rfl
  rw [hopen, splitPort_append hinside]
  simp [splitPort]

theorem splitPort_authorityText {host : Host} (h : host.Normal) (port : Nat) :
    splitPort false (authorityText host port) = (host.written, some (digits port)) := by
  cases host with
  | name text => exact splitPort_asciiName h.2.2 _
  | ipv4 n => exact splitPort_asciiName (asciiName_ipv4Text n) _
  | ipv6 ps =>
    have hread := splitPort_ipv6Text ps (digits port)
    simpa [authorityText, Host.written] using hread

theorem portNumber?_digits {port : Nat} (h : port ≤ 65535) :
    Url.portNumber? (digits port) = some (some port) := by
  have hdigits : ∀ c ∈ digits port, c.isDigit = true := isDigit_of_mem_digits port
  have hempty : (digits port).isEmpty = false := by simpa using digits_ne_nil port
  rw [Url.portNumber?, List.dropWhile_eq_nil_iff.2 hdigits, List.takeWhile_eq_self_iff.2 hdigits]
  simp [hempty, natOfDigits_digits, h]

theorem authority_authorityText {host : Host} (h : host.Normal) (port : Nat) :
    authority (authorityText host port) = ⟨none, host.written, some (digits port)⟩ := by
  have huser : '@' ∉ authorityText host port := fun hmem =>
    (standsInAuthority (mem_authorityText h hmem)).2.2 rfl
  simp [authority, splitUser, huser, splitPort_authorityText h]

/-- Host and port are read as they are written, and the path is left. -/
theorem webParts?_authorityText {host : Host} {port : Nat} {path : List Char} (h : host.Normal)
    (hsettled : host.Settled) (hport : port ≤ 65535)
    (hpath : path.head? = some '/') :
    webParts? ('/' :: '/' :: (authorityText host port ++ path)) =
      some (host, some port, path) := by
  have hstands : ∀ c ∈ authorityText host port, endsAuthority c = false := fun c hc =>
    (standsInAuthority (mem_authorityText h hc)).2.1
  obtain ⟨rest, rfl⟩ := List.head?_eq_some_iff.1 hpath
  have hslashes : ('/' :: '/' :: (authorityText host port ++ '/' :: rest)).dropWhile isSeparator =
      authorityText host port ++ '/' :: rest := by
    obtain ⟨c, cs, hcs⟩ : ∃ c cs, authorityText host port = c :: cs :=
      List.exists_cons_of_ne_nil (by simp [authorityText])
    have hc : isSeparator c = false := by
      have hends := hstands c (by simp [hcs])
      simp only [endsAuthority, Bool.or_eq_false_iff] at hends
      exact hends.1.1
    rw [List.dropWhile_cons_of_pos rfl, List.dropWhile_cons_of_pos rfl, hcs, List.cons_append,
      List.dropWhile_cons_of_neg (by simp [hc])]
  have hends : ∀ c ∈ authorityText host port, (!endsAuthority c) = true := fun c hc => by
    simp [hstands c hc]
  have hslash : ∀ cs : List Char, (('/' :: cs).takeWhile (!endsAuthority ·)) = [] ∧
      ('/' :: cs).dropWhile (!endsAuthority ·) = '/' :: cs := fun _ => ⟨rfl, rfl⟩
  rw [webParts?, hslashes, List.takeWhile_append_of_pos hends, List.dropWhile_append_of_pos hends,
    (hslash rest).1, (hslash rest).2, List.append_nil, authority_authorityText h]
  simp only [host?_written h hsettled, Authority.portNumber?, portNumber?_digits hport]

/-! ## Web addresses -/

/-- A path that was read has neither query nor fragment. -/
theorem pathAndQuery_pathText (cs : List Char) :
    pathAndQuery (pathText cs) = (pathText cs, none) := by
  have hstands : ∀ c, standsInPath c = false → c ∉ pathText cs := fun c hc hmem => by
    rw [standsInPath_of_mem_pathText hmem] at hc
    cases hc
  have hfragment := bne_of_not_mem (hstands '#' rfl)
  have hquery := bne_of_not_mem (hstands '?' rfl)
  simp only [pathAndQuery, List.takeWhile_eq_self_iff.2 hfragment,
    List.takeWhile_eq_self_iff.2 hquery, List.dropWhile_eq_nil_iff.2 hquery, pathText_pathText]

/-- A web address with a port, and without user, query and fragment. -/
def webText (tls : Bool) (host : Host) (port : Nat) (path : List Char) : List Char :=
  schemeText tls ++ ':' :: '/' :: '/' :: (authorityText host port ++ path)

/-- The parts of a web address are read as they are written. -/
theorem location?_webText {host : Host} {port : Nat} (h : host.Normal)
    (hsettled : host.Settled) (hport : port ≤ 65535)
    (tls : Bool) (cs : List Char) :
    location? (String.ofList (webText tls host port (pathText cs))) =
      some (.web tls host (some port) (pathText cs) none) := by
  have hvisible : ∀ c ∈ webText tls host port (pathText cs), 0x20 < c.toNat := by
    have hletters : ((schemeText tls ++ [':', '/', '/']).all (0x20 < ·.toNat)) = true := by
      cases tls <;> decide
    intro c hc
    have hparts : c ∈ schemeText tls ++ [':', '/', '/'] ∨ c ∈ authorityText host port ∨
        c ∈ pathText cs := by
      simpa [webText, or_assoc] using hc
    rcases hparts with hc | hc | hc
    · simpa using List.all_eq_true.1 hletters c hc
    · exact (standsInAuthority (mem_authorityText h hc)).1
    · have hstands := standsInPath_of_mem_pathText hc
      simp only [standsInPath, isVisible, Bool.and_eq_true, decide_eq_true_eq] at hstands
      exact hstands.1.1
  have hsecure : (String.ofList (schemeText tls) == "https") = tls := by
    cases tls <;> decide
  have hweb : (String.ofList (schemeText tls) == "http" || tls) = true := by
    cases tls <;> decide
  rw [location?, String.toList_ofList, cleaned_eq_self hvisible, webText, splitScheme?_schemeText]
  simp only [hsecure, hweb, if_true, webParts?_authorityText h hsettled hport (head?_pathText cs),
    Option.map_some, pathAndQuery_pathText]

theorem le_of_portNumber? {cs : List Char} {port : Option Nat}
    (h : Url.portNumber? cs = some port) : ∀ p ∈ port, p ≤ 65535 := by
  have hread : ∀ ds : List Char, (if ds.isEmpty then some none
      else if natOfDigits ds ≤ 65535 then some (some (natOfDigits ds)) else none) = some port →
      ∀ p ∈ port, p ≤ 65535 := by
    intro ds hds
    split at hds
    · cases hds
      nofun
    · split at hds
      · rename_i hle
        cases hds
        rintro _ ⟨⟩
        exact hle
      · cases hds
  unfold Url.portNumber? at h
  split at h
  · exact hread _ h
  · exact hread _ h
  · cases h

/-- What is known of host and port of a web address. -/
theorem of_webParts? {cs rest : List Char} {host : Host} {port : Option Nat}
    (h : webParts? cs = some (host, port, rest)) : host.Normal ∧ ∀ p ∈ port, p ≤ 65535 := by
  unfold webParts? at h
  simp only at h
  split at h
  · rename_i host' port' hhost hport
    cases h
    refine ⟨normal_of_host? hhost, ?_⟩
    unfold Authority.portNumber? at hport
    split at hport
    · cases hport
      nofun
    · exact le_of_portNumber? hport
  · cases h

/-- Of a web address that is read, host and path are normal, and the port is in range. -/
theorem of_location?_eq_web {text : String} {tls : Bool} {host : Host} {port : Option Nat}
    {path : List Char} {query : Option (List Char)}
    (h : location? text = some (.web tls host port path query)) :
    host.Normal ∧ (∀ p ∈ port, p ≤ 65535) ∧ ∃ cs, path = pathText cs := by
  unfold location? at h
  split at h
  · cases h
  · simp only at h
    split at h
    · obtain ⟨⟨host', port', rest⟩, hparts, heq⟩ := Option.map_eq_some_iff.1 h
      cases heq
      obtain ⟨hhost, hport⟩ := of_webParts? hparts
      exact ⟨hhost, hport, _, rfl⟩
    · simp only [Option.ite_none_right_eq_some, Option.some.injEq, reduceCtorEq, and_false] at h

end Url

namespace Endpoint

theorem urlHost_text {host : Url.Host} (h : host.Normal) :
    urlHost (String.ofList host.text) = String.ofList host.written := by
  have hname : ∀ {text : List Char}, Url.AsciiName text →
      urlHost (String.ofList text) = String.ofList text := by
    intro text htext
    have hcolon : ':' ∉ text := fun hmem => htext.ne hmem rfl rfl
    simp [urlHost, hcolon]
  cases host with
  | name text => exact hname h.2.2
  | ipv4 n => exact hname (Url.asciiName_ipv4Text n)
  | ipv6 ps =>
    have hcolon : ':' ∈ Url.ipv6Text ps := Url.colon_mem_ipv6Text h
    have hbracket : (Url.ipv6Text ps).head? ≠ some '[' := fun hhead =>
      Url.not_mem_text h (c := '[') rfl (by decide) (List.mem_of_head? hhead)
    simp [urlHost, Url.Host.text, Url.Host.written, hcolon, hbracket, ← String.toList_inj]

/-- The URL of an endpoint whose host was read. -/
theorem url_eq_webText {host : Url.Host} (h : host.Normal) (port : Nat) (tls : Bool)
    (path : List Char) :
    url ⟨String.ofList host.text, port, tls, String.ofList path⟩ =
      String.ofList (Url.webText tls host port path) := by
  rw [url, urlHost_text h, ← String.toList_inj]
  simp [scheme, Url.webText, Url.schemeText, Url.authorityText, naturalText]

/-- An endpoint that was read from a text is read again from its URL. Its path begins with a slash,
and its host is not empty and has no brackets. Of a host that is not ordinary it is asked that it is
looked up as it is. -/
theorem parse_url {text : String} {e : Endpoint} (h : parse text = .ok e)
    (hname : Url.isOrdinary e.host.toList = false →
      Url.asciiDomain? e.host.toList = some e.host.toList) :
    parse e.url = .ok e ∧ e.path.toList.head? = some '/' ∧ e.host ≠ "" ∧ Unbracketed e.host := by
  unfold parse at h
  split at h
  · cases h
  · cases h
  · rename_i tls host port path query hlocation
    cases h
    obtain ⟨hhost, hport, cs, rfl⟩ := Url.of_location?_eq_web hlocation
    rw [String.toList_ofList] at hname
    have hsettled : host.Settled := by
      cases host with
      | name text =>
        cases hordinary : Url.isOrdinary text with
        | true => exact Url.asciiDomain?_of_ordinary hhost.2.2 hordinary
        | false => exact hname hordinary
      | ipv4 n => trivial
      | ipv6 ps => trivial
    have hle : port.getD (defaultPort tls) ≤ 65535 := by
      cases port with
      | none => cases tls <;> decide
      | some p => exact hport p rfl
    refine ⟨?_, ?_, ?_, ?_, ?_⟩
    · rw [url_eq_webText hhost, parse, Url.location?_webText hhost hsettled hle]
      rfl
    · rw [String.toList_ofList, Url.head?_pathText]
    · intro hempty
      exact Url.text_ne_nil hhost (by simpa using hempty)
    · simpa using Url.not_mem_text hhost (c := '[') rfl (by decide)
    · simpa using Url.not_mem_text hhost (c := ']') rfl (by decide)

/-- An IPv6 address with a user, a query and a fragment. -/
theorem parse_url_ipv6 :
    parse "HTTPS://u@[FD00:0:0::1]\\a/../b c?x#y" = .ok ⟨"fd00::1", 443, true, "/b%20c"⟩ ∧
      parse (url ⟨"fd00::1", 443, true, "/b%20c"⟩) = .ok ⟨"fd00::1", 443, true, "/b%20c"⟩ := by
  have hread : parse "HTTPS://u@[FD00:0:0::1]\\a/../b c?x#y" =
      .ok ⟨"fd00::1", 443, true, "/b%20c"⟩ := by
    decide +kernel
  have hordinary : Url.isOrdinary "fd00::1".toList = true := by decide
  refine ⟨hread, (parse_url hread fun hencoded => ?_).1⟩
  cases hordinary.symm.trans hencoded

end Endpoint

end PoolClient
