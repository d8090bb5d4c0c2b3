import RichText.Link.Authority
import RichText.Proofs.Text.Cut

/-! # Authorities that pass

The form an authority has to have, and where it stands in a target. The checks cut an authority up
and look at the parts; the form says how it is put together. -/

namespace RichText.Link

open RichText.Text

/-- A host, alone or with a port behind a colon. A host in brackets may contain colons; its brackets
must be the first to open and the first to close, and may be left open at the end. -/
inductive HostPort : List Char → List Char → List Char → Prop where
  | bare {host} (hbracket : '[' ∉ host) (hcolon : ':' ∉ host) : HostPort host host []
  | barePort {host port} (hbracket : '[' ∉ host ++ ':' :: port) (hcolon : ':' ∉ host) :
      HostPort (host ++ ':' :: port) host port
  | unclosed {host} (hbracket : ']' ∉ host) : HostPort ('[' :: host) host []
  | bracketed {host} (hbracket : ']' ∉ host) : HostPort ('[' :: (host ++ [']'])) host []
  | bracketedPort {host port} (hbracket : ']' ∉ host) :
      HostPort ('[' :: (host ++ ']' :: ':' :: port)) host port

/-- An address of the long form or of the form kept for later, and no address of four octets. -/
def IsLongAddress (host : List Char) : Prop :=
  if host.head? = some 'v' then isFuture host = true
  else isIpv4 host = false ∧ isIpv6 host = true

/-- No port, or a decimal number of sixteen bits in at most 4300 digits. -/
structure IsPort (port : List Char) : Prop where
  digits : ∀ c ∈ port, c.isDigit = true
  length : port.length ≤ maxDigits
  value : natOfDigits port ≤ 65535

/-- The form of an authority. Behind the last `@` stand a host and perhaps a port. Where there are
brackets, here or in front of the `@`, there are both, and the host is an address. -/
structure IsAuthority (authority : List Char) : Prop where
  brackets : '[' ∈ authority ↔ ']' ∈ authority
  undisguised : ∀ c ∈ authority, c ∉ disguised
  hostPort : ∃ behind host port, IsLastPart '@' authority behind ∧ HostPort behind host port ∧
    ('[' ∈ authority → IsLongAddress host) ∧ IsPort port

/-! ## The checks -/

theorem checkDisguised_eq_ok_iff (authority : List Char) :
    checkDisguised authority = .ok () ↔ ∀ c ∈ authority, c ∉ disguised := by
  unfold checkDisguised
  split
  · rename_i h
    obtain ⟨c, hc, hdisguised⟩ := List.any_eq_true.mp h
    simp only [reduceCtorEq, false_iff]
    intro hall
    exact hall c hc (List.contains_iff_mem.mp hdisguised)
  · rename_i h
    simp only [true_iff]
    intro c hc hdisguised
    exact h (List.any_eq_true.mpr ⟨c, hc, List.contains_iff_mem.mpr hdisguised⟩)

theorem checkPort_eq_ok_iff (authority : List Char) :
    checkPort authority = .ok () ↔ IsPort (portText authority) := by
  unfold checkPort
  dsimp only
  generalize portText authority = port
  by_cases hempty : port = []
  · subst hempty
    exact iff_of_true rfl ⟨nofun, Nat.zero_le _, Nat.zero_le _⟩
  rw [if_neg (by simpa using hempty)]
  by_cases hdigits : ∀ c ∈ port, c.isDigit = true
  · rw [if_neg (by simpa using hdigits)]
    by_cases hlength : port.length ≤ maxDigits
    · rw [if_neg (Nat.not_lt.mpr hlength)]
      by_cases hvalue : natOfDigits port ≤ 65535
      · rw [if_neg (Nat.not_lt.mpr hvalue)]
        exact iff_of_true rfl ⟨hdigits, hlength, hvalue⟩
      · rw [if_pos (Nat.not_le.mp hvalue)]
        exact iff_of_false nofun fun h => hvalue h.value
    · rw [if_pos (Nat.not_le.mp hlength)]
      exact iff_of_false nofun fun h => hlength h.length
  · rw [if_pos (by simpa using hdigits)]
    exact iff_of_false nofun fun h => hdigits h.digits

section HostAndPort

variable {authority behind host port : List Char} (hbehind : IsLastPart '@' authority behind)
include hbehind

theorem bracketedHost_of_not_mem (hbracket : '[' ∉ behind) :
    bracketedHost authority = .ok (cut ':' behind).1 := by
  unfold bracketedHost hostAndPort
  rw [hbehind.afterLast_eq, (CutAt.nowhere hbracket).cut_eq]

theorem portText_of_not_mem (hbracket : '[' ∉ behind) :
    portText authority = (cut ':' behind).2.getD [] := by
  unfold portText hostAndPort
  dsimp only
  rw [hbehind.afterLast_eq, (CutAt.nowhere hbracket).cut_eq]

/-- The host that the brackets announce and the text of the port are those of the form. -/
theorem HostPort.parts (h : HostPort behind host port) :
    bracketedHost authority = .ok host ∧ portText authority = port := by
  cases h with
  | bare hbracket hcolon =>
      rw [bracketedHost_of_not_mem hbehind hbracket, portText_of_not_mem hbehind hbracket,
        (CutAt.nowhere hcolon).cut_eq]
      exact ⟨rfl, rfl⟩
  | barePort hbracket hcolon =>
      rw [bracketedHost_of_not_mem hbehind hbracket, portText_of_not_mem hbehind hbracket,
        (CutAt.behind _ hcolon).cut_eq]
      exact ⟨rfl, rfl⟩
  | unclosed hbracket =>
      unfold bracketedHost portText hostAndPort
      simp only [hbehind.afterLast_eq, cut, if_true]
      rw [(CutAt.nowhere hbracket).cut_eq]
      exact ⟨rfl, rfl⟩
  | bracketed hbracket | bracketedPort hbracket =>
      unfold bracketedHost portText hostAndPort
      simp only [hbehind.afterLast_eq, cut, if_true]
      rw [(CutAt.behind _ hbracket).cut_eq]
      exact ⟨rfl, rfl⟩

omit hbehind in
theorem exists_hostPort_of_not_mem (hbracket : '[' ∉ behind) :
    ∃ port, HostPort behind (cut ':' behind).1 port := by
  have hcolon := cutAt_cut ':' behind
  generalize cut ':' behind = parts at hcolon
  obtain ⟨name, port⟩ := parts
  cases hcolon with
  | nowhere hnot => exact ⟨[], .bare hbracket hnot⟩
  | behind port hnot => exact ⟨port, .barePort hbracket hnot⟩

/-- Brackets in the wrong place are all that keeps a text from having the form. -/
theorem exists_hostPort (h : bracketedHost authority = .ok host) :
    ∃ port, HostPort behind host port := by
  by_cases hbracket : '[' ∈ behind
  · unfold bracketedHost hostAndPort at h
    rw [hbehind.afterLast_eq] at h
    have hopen := cutAt_cut '[' behind
    generalize cut '[' behind = opened at h hopen
    obtain ⟨before, rest⟩ := opened
    cases hopen with
    | nowhere hnot => exact absurd hbracket hnot
    | behind rest _ =>
        cases before with
        | cons => cases h
        | nil =>
            dsimp only at h
            have hclose := cutAt_cut ']' rest
            generalize cut ']' rest = closed at h hclose
            obtain ⟨name, tail⟩ := closed
            cases hclose with
            | nowhere hnot =>
                cases h
                exact ⟨[], .unclosed hnot⟩
            | behind tail hnot =>
                -- Behind the closing bracket a port may follow, and nothing else.
                rcases tail with _ | ⟨d, port⟩
                · cases h
                  exact ⟨[], .bracketed hnot⟩
                · by_cases hd : d = ':'
                  · subst hd
                    cases h
                    exact ⟨port, .bracketedPort hnot⟩
                  · simp at h
  · rw [bracketedHost_of_not_mem hbehind hbracket] at h
    cases h
    exact exists_hostPort_of_not_mem hbracket

end HostAndPort

/-- Where there are brackets there have to be both, and what they announce is an address. -/
theorem checkBrackets_eq_ok_iff (authority : List Char) :
    checkBrackets authority = .ok () ↔
      ('[' ∈ authority ↔ ']' ∈ authority) ∧
        ('[' ∈ authority → ∃ host, bracketedHost authority = .ok host ∧ IsLongAddress host) := by
  unfold checkBrackets
  by_cases hopen : '[' ∈ authority <;> by_cases hclose : ']' ∈ authority
  · simp only [hopen, hclose, List.contains_eq_mem, decide_true, forall_const, true_and]
    cases bracketedHost authority with
    | error fault => simp [bind, Except.bind]
    | ok host =>
        simp only [bind, Except.bind, Except.ok.injEq, exists_eq_left', IsLongAddress]
        split
        · cases isFuture host <;> simp
        · cases isIpv4 host <;> cases isIpv6 host <;> simp
  all_goals simp [hopen, hclose]

/-- An authority passes the checks if and only if it has the form of one. -/
theorem checkAuthority_eq_ok_iff (authority : List Char) :
    checkAuthority authority = .ok () ↔ IsAuthority authority := by
  have hchecks : checkAuthority authority = .ok () ↔
      checkBrackets authority = .ok () ∧ checkDisguised authority = .ok () ∧
        checkPort authority = .ok () := by
    unfold checkAuthority
    cases checkBrackets authority <;> cases checkDisguised authority <;>
      simp [bind, Except.bind]
  rw [hchecks, checkBrackets_eq_ok_iff, checkDisguised_eq_ok_iff, checkPort_eq_ok_iff]
  have hbehind := isLastPart_afterLast '@' authority
  constructor
  · rintro ⟨⟨hbrackets, haddress⟩, hundisguised, hport⟩
    refine ⟨hbrackets, hundisguised, ?_⟩
    by_cases hopen : '[' ∈ authority
    · obtain ⟨host, hhost, hlong⟩ := haddress hopen
      obtain ⟨port, hform⟩ := exists_hostPort hbehind hhost
      rw [(hform.parts hbehind).2] at hport
      exact ⟨_, host, port, hbehind, hform, fun _ => hlong, hport⟩
    · have hnot : '[' ∉ afterLast '@' authority := fun h => hopen (hbehind.suffix.mem h)
      obtain ⟨port, hform⟩ := exists_hostPort_of_not_mem hnot
      rw [(hform.parts hbehind).2] at hport
      exact ⟨_, _, port, hbehind, hform, fun h => absurd h hopen, hport⟩
  · rintro ⟨hbrackets, hundisguised, behind, host, port, hlast, hform, hlong, hport⟩
    obtain ⟨hhost, htext⟩ := hform.parts hlast
    rw [htext]
    exact ⟨⟨hbrackets, fun h => ⟨host, hhost, hlong h⟩⟩, hundisguised, hport⟩

end RichText.Link
