/-
**The authority of a URI.**

What comes after `://` in a URI is an authority, which ends where a path, a query or a fragment begins.
An authority is a host with a userinfo before it and a port after it, both of which may be missing.  The
userinfo and an IP literal can have colons in them, and so the host does not end at the first one.
A text is the list of its UTF-16 code units.

Main definitions:

* `Uri.authority`, `Uri.hostport`, `Uri.host`, `Uri.port` — the parts of a text;
* `Uri.origin` — the scheme, the host and the port as a text;
* `Uri.Host`, `Uri.Authority` — the parts by the grammar, and their texts.

Main results:

* `Uri.host_text` — **the host that is parsed is the host of the grammar**, whatever comes before it
  and after it.
-/

import Mathlib.Data.List.DropRight

set_option relaxedAutoImplicit false
set_option autoImplicit false

namespace Uri

/-! ### The parts of a text -/

/-- The general delimiters: `:/?#[]@`. -/
def genDelims : List UInt16 := [58, 47, 63, 35, 91, 93, 64]

/-- The delimiters of a path, a query and a fragment. -/
def endsAuthority (c : UInt16) : Bool := c == 47 || c == 63 || c == 35

/-- The authority, of what comes after `://`. -/
def authority (s : List UInt16) : List UInt16 := s.takeWhile fun c => !endsAuthority c

/-- The host and the port, of an authority: what comes after the last `@`. -/
def hostport (s : List UInt16) : List UInt16 := s.rtakeWhile (· ≠ 64)

/-- The host, of a host and a port: an IP literal in brackets, or what comes before the colon. -/
def hostOfHostport (s : List UInt16) : List UInt16 :=
  if s.head? = some 91 ∧ 93 ∈ s then s.takeWhile (· ≠ 93) ++ [93] else s.takeWhile (· ≠ 58)

/-- The host, of what comes after `://`. -/
def host (s : List UInt16) : List UInt16 := hostOfHostport (hostport (authority s))

/-- The port, of what comes after `://`: what comes after the host and a colon. -/
def port (s : List UInt16) : List UInt16 :=
  (hostport (authority s)).drop ((host s).length + 1)

/-- An ASCII letter in lower case. -/
def toLower (c : UInt16) : UInt16 := if 65 ≤ c ∧ c ≤ 90 then c + 32 else c

/-- The origin as a text, of a scheme and what comes after it: the host is in lower case, and the port
is left out if it is the default port of the scheme. -/
def origin (scheme defaultPort s : List UInt16) : List UInt16 :=
  scheme ++ ((host s).map toLower ++
    if port s = [] ∨ port s = defaultPort then [] else 58 :: port s)

/-! ### The grammar -/

/-- A host: a registered name (or an IPv4 address), or an IP literal, which is in brackets and can have
colons in it. -/
inductive Host
  | regName (name : List UInt16) (plain : ∀ c ∈ name, c ∉ genDelims)
  | ipLiteral (address : List UInt16) (plain : ∀ c ∈ address, c ∈ genDelims → c = 58)

def Host.text : Host → List UInt16
  | .regName name _ => name
  | .ipLiteral address _ => 91 :: (address ++ [93])

/-- An authority: `[ userinfo "@" ] host [ ":" port ]`. -/
structure Authority where
  userinfo : Option (List UInt16)
  host : Host
  port : Option (List UInt16)
  userinfo_plain : ∀ u ∈ userinfo, ∀ c ∈ u, c ∈ genDelims → c = 58
  port_digits : ∀ p ∈ port, ∀ c ∈ p, 48 ≤ c ∧ c ≤ 57

namespace Authority

def userinfoText (a : Authority) : List UInt16 := (a.userinfo.map (· ++ [64])).getD []

def portText (a : Authority) : List UInt16 := (a.port.map (58 :: ·)).getD []

def text (a : Authority) : List UInt16 := a.userinfoText ++ (a.host.text ++ a.portText)

end Authority

/-! ### The parts of a text by the grammar -/

theorem takeWhile_ne_append_cons {a : UInt16} {xs : List UInt16} (h : a ∉ xs) (ys : List UInt16) :
    (xs ++ a :: ys).takeWhile (· ≠ a) = xs := by
  have hall : ∀ c ∈ xs, decide (c ≠ a) = true := by
    intro c hc
    exact decide_eq_true fun heq => h (heq ▸ hc)
  rw [List.takeWhile_append_of_pos hall, List.takeWhile_cons_of_neg (by simp), List.append_nil]

theorem takeWhile_ne_self {a : UInt16} {xs : List UInt16} (h : a ∉ xs) :
    xs.takeWhile (· ≠ a) = xs := by
  refine List.takeWhile_eq_self_iff.2 ?_
  intro c hc
  exact decide_eq_true fun heq => h (heq ▸ hc)

theorem hostport_of_notMem {xs : List UInt16} (h : 64 ∉ xs) : hostport xs = xs := by
  refine List.rtakeWhile_eq_self_iff.2 ?_
  intro c hc
  exact decide_eq_true fun heq => h (heq ▸ hc)

theorem hostport_append_cons {xs ys : List UInt16} (h : 64 ∉ ys) :
    hostport (xs ++ 64 :: ys) = ys := by
  have hrev : (xs ++ 64 :: ys).reverse = ys.reverse ++ 64 :: xs.reverse := by simp
  rw [hostport, List.rtakeWhile, hrev, takeWhile_ne_append_cons (by simpa using h),
    List.reverse_reverse]

/-- An authority ends where something else begins. -/
theorem authority_append {s rest : List UInt16} (hs : ∀ c ∈ s, endsAuthority c = false)
    (hrest : ∀ c ∈ rest.head?, endsAuthority c = true) : authority (s ++ rest) = s := by
  rw [authority, List.takeWhile_append_of_pos (by simpa using hs)]
  cases rest with
  | nil => rw [List.takeWhile_nil, List.append_nil]
  | cons c rest =>
      have hc : endsAuthority c = true := hrest c rfl
      rw [List.takeWhile_cons_of_neg (by simp [hc]), List.append_nil]

theorem endsAuthority_of_notMem {c : UInt16} (h : c ∉ genDelims) : endsAuthority c = false := by
  simp only [genDelims, List.mem_cons, List.not_mem_nil, or_false, not_or] at h
  simp [endsAuthority, h]

/-- The only general delimiter that a userinfo or an IP literal can have in it is the colon. -/
theorem plain_of_colon {c : UInt16} (h : c ∈ genDelims → c = 58) :
    endsAuthority c = false ∧ c ≠ 64 ∧ c ≠ 93 := by
  by_cases hc : c ∈ genDelims
  · obtain rfl := h hc
    decide
  · refine ⟨endsAuthority_of_notMem hc, ?_, ?_⟩
    · rintro rfl
      exact hc (by decide)
    · rintro rfl
      exact hc (by decide)

theorem notMem_genDelims_of_digit {c : UInt16} (h : 48 ≤ c ∧ c ≤ 57) : c ∉ genDelims := by
  obtain ⟨hlo, hhi⟩ := h
  have hlo : 48 ≤ c.toNat := UInt16.le_iff_toNat_le.1 hlo
  have hhi : c.toNat ≤ 57 := UInt16.le_iff_toNat_le.1 hhi
  intro hmem
  simp only [genDelims, List.mem_cons, List.not_mem_nil, or_false] at hmem
  rcases hmem with rfl | rfl | rfl | rfl | rfl | rfl | rfl <;> simp at hlo hhi

namespace Host

theorem plain (h : Host) : ∀ c ∈ h.text, endsAuthority c = false ∧ c ≠ 64 := by
  intro c hc
  cases h with
  | regName name plain =>
      refine ⟨endsAuthority_of_notMem (plain c hc), ?_⟩
      rintro rfl
      exact plain 64 hc (by decide)
  | ipLiteral address plain =>
      rw [text, List.mem_cons, List.mem_append, List.mem_singleton] at hc
      rcases hc with rfl | hc | rfl
      · decide
      · exact ⟨(plain_of_colon (plain c hc)).1, (plain_of_colon (plain c hc)).2.1⟩
      · decide

/-- The host is found before a port, or when there is none. -/
theorem hostOfHostport_text (h : Host) {port : List UInt16}
    (hport : port = [] ∨ ∃ digits, port = 58 :: digits ∧ 93 ∉ digits) :
    hostOfHostport (h.text ++ port) = h.text := by
  cases h with
  | regName name plain =>
      have hcolon : 58 ∉ name := fun hmem => plain 58 hmem (by decide)
      have hbracket : 93 ∉ name := fun hmem => plain 93 hmem (by decide)
      have hnone : 93 ∉ name ++ port := by
        rcases hport with rfl | ⟨digits, rfl, hdigits⟩
        · rw [List.append_nil]
          exact hbracket
        · rw [List.mem_append, List.mem_cons]
          rintro (hmem | heq | hmem)
          · exact hbracket hmem
          · exact absurd heq (by decide)
          · exact hdigits hmem
      rw [text, hostOfHostport, if_neg fun h => hnone h.2]
      rcases hport with rfl | ⟨digits, rfl, -⟩
      · rw [List.append_nil, takeWhile_ne_self hcolon]
      · exact takeWhile_ne_append_cons hcolon digits
  | ipLiteral address plain =>
      have hbracket : 93 ∉ 91 :: address := by
        rw [List.mem_cons]
        rintro (heq | hmem)
        · exact absurd heq (by decide)
        · exact (plain_of_colon (plain 93 hmem)).2.2 rfl
      have htext : text (.ipLiteral address plain) ++ port = (91 :: address) ++ 93 :: port := by
        simp [text]
      rw [htext, hostOfHostport, if_pos ⟨rfl, by simp⟩, takeWhile_ne_append_cons hbracket]
      rfl

end Host

namespace Authority

variable (a : Authority)

theorem userinfoText_cases : a.userinfoText = [] ∨
    ∃ u, a.userinfoText = u ++ [64] ∧ ∀ c ∈ u, endsAuthority c = false := by
  rcases h : a.userinfo with _ | u
  · exact .inl (by rw [userinfoText, h]; rfl)
  · refine .inr ⟨u, by rw [userinfoText, h]; rfl, ?_⟩
    intro c hc
    exact (plain_of_colon (a.userinfo_plain u h c hc)).1

theorem portText_cases : a.portText = [] ∨
    ∃ digits, a.portText = 58 :: digits ∧ ∀ c ∈ digits, c ∉ genDelims := by
  rcases h : a.port with _ | p
  · exact .inl (by rw [portText, h]; rfl)
  · refine .inr ⟨p, by rw [portText, h]; rfl, ?_⟩
    intro c hc
    exact notMem_genDelims_of_digit (a.port_digits p h c hc)

/-- After the userinfo there is no `@`, and no path, query or fragment begins. -/
theorem hostport_plain : ∀ c ∈ a.host.text ++ a.portText, endsAuthority c = false ∧ c ≠ 64 := by
  intro c hc
  rcases List.mem_append.1 hc with hc | hc
  · exact a.host.plain c hc
  · rcases a.portText_cases with hnone | ⟨digits, hsome, hdigits⟩
    · rw [hnone] at hc
      cases hc
    · rw [hsome] at hc
      rcases List.mem_cons.1 hc with rfl | hc
      · decide
      · refine ⟨endsAuthority_of_notMem (hdigits c hc), ?_⟩
        rintro rfl
        exact hdigits 64 hc (by decide)

theorem text_plain : ∀ c ∈ a.text, endsAuthority c = false := by
  intro c hc
  rcases List.mem_append.1 hc with hc | hc
  · rcases a.userinfoText_cases with hnone | ⟨u, hsome, hu⟩
    · rw [hnone] at hc
      cases hc
    · rw [hsome] at hc
      rcases List.mem_append.1 hc with hc | hc
      · exact hu c hc
      · rw [List.mem_singleton.1 hc]
        decide
  · exact (a.hostport_plain c hc).1

theorem hostport_text : hostport a.text = a.host.text ++ a.portText := by
  have hat : 64 ∉ a.host.text ++ a.portText := fun hmem => (a.hostport_plain 64 hmem).2 rfl
  rcases a.userinfoText_cases with hnone | ⟨u, hsome, -⟩
  · rw [text, hnone, List.nil_append, hostport_of_notMem hat]
  · rw [text, hsome, List.append_assoc]
    exact hostport_append_cons hat

end Authority

/-- **The host that is parsed is the host of the authority**, whatever comes after the authority. -/
theorem host_text (a : Authority) {rest : List UInt16}
    (hrest : ∀ c ∈ rest.head?, endsAuthority c = true) : host (a.text ++ rest) = a.host.text := by
  rw [host, authority_append a.text_plain hrest, a.hostport_text]
  refine a.host.hostOfHostport_text ?_
  rcases a.portText_cases with hnone | ⟨digits, hsome, hdigits⟩
  · exact .inl hnone
  · exact .inr ⟨digits, hsome, fun hmem => hdigits 93 hmem (by decide)⟩

/-- Without a userinfo, a query and a fragment the host ends at the first colon, if it is not in
brackets. -/
theorem host_of_plain {s : List UInt16} (hends : ∀ c ∈ s, endsAuthority c = false) (hat : 64 ∉ s)
    (hbracket : s.head? ≠ some 91) {rest : List UInt16}
    (hrest : ∀ c ∈ rest.head?, endsAuthority c = true) :
    host (s ++ rest) = s.takeWhile (· ≠ 58) := by
  rw [host, authority_append hends hrest, hostport_of_notMem hat, hostOfHostport,
    if_neg fun h => hbracket h.1]

/-- A name without general delimiters and without capitals is the host of an origin as it is. -/
theorem origin_of_plain (scheme defaultPort : List UInt16) {name : List UInt16}
    (hplain : ∀ c ∈ name, c ∉ genDelims ∧ toLower c = c) {rest : List UInt16}
    (hrest : ∀ c ∈ rest.head?, endsAuthority c = true) :
    host (name ++ rest) = name ∧ origin scheme defaultPort (name ++ rest) = scheme ++ name := by
  have hends : ∀ c ∈ name, endsAuthority c = false :=
    fun c hc => endsAuthority_of_notMem (hplain c hc).1
  have hat : 64 ∉ name := fun hmem => (hplain 64 hmem).1 (by decide)
  have hcolon : 58 ∉ name := fun hmem => (hplain 58 hmem).1 (by decide)
  have hbracket : name.head? ≠ some 91 :=
    fun hhead => (hplain 91 (List.mem_of_head? hhead)).1 (by decide)
  have hhost : host (name ++ rest) = name := by
    rw [host_of_plain hends hat hbracket hrest, takeWhile_ne_self hcolon]
  have hport : port (name ++ rest) = [] := by
    rw [port, hhost, authority_append hends hrest, hostport_of_notMem hat]
    exact List.drop_eq_nil_of_le (by omega)
  have hlower : name.map toLower = name :=
    (List.map_congr_left fun c hc => (hplain c hc).2).trans (List.map_id name)
  refine ⟨hhost, ?_⟩
  rw [origin, hhost, hport, if_pos (.inl rfl), hlower, List.append_nil]

end Uri
