import UrlMask.Proofs.Url.Host
import UrlMask.Url.Parser

/-!
# Authorities, written and read

The text of an authority is cut into user name, password, host and port at the places where it was
put together. So it shows what it was put together from, and an authority is read back from it.

* `Authority.Sound`: what is read as an authority; `Authority.sound_of_readAuthority`.
* `Authority.text_append_injective`: texts that begin alike have the same authority.
* `Authority.readAuthority_text`: an authority is read back.
-/
namespace UrlMask.Url

open Percent (Stays EncodeSet)

/-! ## The ends of an authority -/

/-- What can follow an authority: nothing, or a character that ends it. -/
def Ends (special : Bool) (rest : List Char) : Prop :=
  ∀ c ∈ rest.head?, endsAuthority special c = true

/-- A character that an authority holds. -/
def isInside (c : Char) : Bool :=
  0x20 < c.toNat && c.toNat < 0x80 && !(['#', '/', '?', '\\'].contains c)

theorem endsAuthority_of_isInside {c : Char} (h : isInside c = true) (special : Bool) :
    endsAuthority special c = false := by
  have ha : c.toNat < 0x80 := by
    simp only [isInside, Bool.and_eq_true, decide_eq_true_eq] at h
    exact h.1.2
  have := Utf8.forall_ascii (p := fun c => !isInside c || !endsAuthority true c)
    (by decide) ha
  simp only [h, Bool.not_true, Bool.false_or, Bool.not_eq_true'] at this
  cases special with
  | true => exact this
  | false =>
    simp only [endsAuthority, Bool.or_eq_false_iff] at *
    simp [this]

theorem isInside_of_isHex {c : Char} (h : Ipv4.isHex c = true) : isInside c = true := by
  have := Utf8.forall_ascii (p := fun c => !Ipv4.isHex c || isInside c) (by decide)
    (Ipv6.ascii_of_isHex h)
  simpa [h] using this

theorem isInside_of_isFree {c : Char} (h : Host.isFree c = true) : isInside c = true := by
  simp only [Host.isFree, isInside, List.contains_cons, List.contains_nil, Bool.and_eq_true,
    decide_eq_true_eq, Bool.not_eq_true', Bool.or_eq_false_iff] at *
  simp [h]

/-! ## Logins -/

/-- A character of a user name or a password. -/
def isLogin (c : Char) : Bool := c.toNat < 0x80 && !EncodeSet.userinfo c

theorem isInside_of_isLogin {c : Char} (h : isLogin c = true) :
    isInside c = true ∧ c ≠ '@' ∧ c ≠ ':' := by
  have ha : c.toNat < 0x80 := by
    simp only [isLogin, Bool.and_eq_true, decide_eq_true_eq] at h
    exact h.1
  have := Utf8.forall_ascii (p := fun c => !isLogin c || (isInside c && c != '@' && c != ':'))
    (by decide) ha
  simpa [h, and_assoc] using this

theorem isLogin_of_mem {s : List Char} {c : Char}
    (h : c ∈ Percent.encode EncodeSet.userinfo s) : isLogin c = true := by
  have := Percent.stays_of_mem EncodeSet.userinfo_apart h
  simp [isLogin, this.1, this.2]

theorem encode_login {s : List Char} (h : ∀ c ∈ s, isLogin c = true) :
    Percent.encode EncodeSet.userinfo s = s := by
  refine Percent.encode_eq_self fun c hc => ?_
  have := h c hc
  simpa [isLogin, Stays] using this

namespace Authority

/-- What is read as an authority. -/
structure Sound (kind : SchemeKind) (scheme : List Char) (a : Authority) : Prop where
  user : ∀ c ∈ a.user, isLogin c = true
  password : ∀ p, a.password = some p → p ≠ [] ∧ ∀ c ∈ p, isLogin c = true
  host : a.host.Sound kind.isSpecial
  port : ∀ n, a.port = some n → n ≤ 65535 ∧ some n ≠ usualPort scheme
  /-- Nothing stands before or after a host that is left out. -/
  bare : a.host = Host.none → a.user = [] ∧ a.password = none ∧ a.port = none
  web : kind = .web → a.host ≠ Host.none
  file : kind = .file → a.user = [] ∧ a.password = none ∧ a.port = none ∧
    a.host ≠ .name "localhost".toList

/-! ## The text in its parts -/

/-- The user name, and the password behind its colon. -/
def login (a : Authority) : List Char :=
  a.user ++ (match a.password with
    | some p => ':' :: p
    | none => [])

def loginText (a : Authority) : List Char :=
  if a.login = [] then [] else a.login ++ ['@']

def portText (a : Authority) : List Char :=
  match a.port with
  | some n => ':' :: Nat.toDigits 10 n
  | none => []

/-- What stands behind the slashes. -/
def front (a : Authority) : List Char := a.loginText ++ (a.host.text ++ a.portText)

theorem text_eq (a : Authority) : a.text = '/' :: '/' :: a.front := by
  obtain ⟨user, password, host, port⟩ := a
  cases password <;> cases port <;>
    simp only [text, front, loginText, login, portText, List.isEmpty_iff, List.append_assoc]

variable {kind : SchemeKind} {scheme : List Char} {a : Authority}

theorem login_eq_nil : a.login = [] ↔ a.user = [] ∧ a.password = none := by
  unfold login
  cases a.password <;> simp

theorem mem_login (h : a.Sound kind scheme) {c : Char} (hc : c ∈ a.login) :
    isLogin c = true ∨ c = ':' := by
  rcases List.mem_append.1 hc with hc | hc
  · exact Or.inl (h.user c hc)
  · cases hp : a.password with
    | none => rw [hp] at hc; cases hc
    | some p =>
      rw [hp] at hc
      rcases List.mem_cons.1 hc with hc | hc
      · exact Or.inr hc
      · exact Or.inl ((h.password p hp).2 c hc)

theorem isDigit_of_mem_portText {c : Char} (hc : c ∈ a.portText) : c.isDigit = true ∨ c = ':' := by
  unfold portText at hc
  split at hc
  · rcases List.mem_cons.1 hc with hc | hc
    · exact Or.inr hc
    · exact Or.inl (Nat.isDigit_of_mem_toDigits (by decide) (by decide) hc)
  · cases hc

theorem not_mem_hostPort (h : a.Sound kind scheme) : '@' ∉ a.host.text ++ a.portText := by
  intro hc
  rcases List.mem_append.1 hc with hc | hc
  · rcases Host.text_cases h.host with hf | ⟨s, hs, hx⟩
    · cases hf _ hc
    · rw [hs] at hc
      simp only [List.mem_cons, List.mem_append, List.not_mem_nil, or_false] at hc
      rcases hc with hc | hc | hc
      · cases hc
      · rcases hx _ hc with hx | hx <;> cases hx
      · cases hc
  · rcases isDigit_of_mem_portText hc with hc | hc <;> cases hc

/-- No character of an authority ends it. -/
theorem isInside_of_mem (h : a.Sound kind scheme) {c : Char} (hc : c ∈ a.front) :
    isInside c = true := by
  rcases List.mem_append.1 hc with hc | hc
  · unfold loginText at hc
    split at hc
    · cases hc
    · rcases List.mem_append.1 hc with hc | hc
      · rcases mem_login h hc with hc | rfl
        · exact (isInside_of_isLogin hc).1
        · decide
      · cases List.mem_singleton.1 hc
        decide
  rcases List.mem_append.1 hc with hc | hc
  · rcases Host.text_cases h.host with hf | ⟨s, hs, hx⟩
    · exact isInside_of_isFree (hf c hc)
    · rw [hs] at hc
      simp only [List.mem_cons, List.mem_append, List.not_mem_nil, or_false] at hc
      rcases hc with rfl | hc | rfl
      · decide
      · rcases hx c hc with hx | rfl
        · exact isInside_of_isHex hx
        · decide
      · decide
  · rcases isDigit_of_mem_portText hc with hc | rfl
    · exact isInside_of_isHex (by simp [Ipv4.isHex, hc])
    · decide

/-! ## Cutting the text -/

/-- The text before a character that ends the authority is the authority. -/
theorem takeWhile_front (h : a.Sound kind scheme) {special : Bool} {rest : List Char}
    (hr : Ends special rest) :
    (a.front ++ rest).takeWhile (fun c => !endsAuthority special c) = a.front ∧
      (a.front ++ rest).dropWhile (fun c => !endsAuthority special c) = rest := by
  have hf : ∀ c ∈ a.front, (!endsAuthority special c) = true := fun c hc => by
    simp [endsAuthority_of_isInside (isInside_of_mem h hc)]
  have hr' : ∀ c ∈ rest.head?, (!endsAuthority special c) = false := fun c hc => by simp [hr c hc]
  exact ⟨Span.takeWhile_append_stop hf hr', Span.dropWhile_append_stop hf hr'⟩

theorem splitLogin_of_not_mem {s : List Char} (h : '@' ∉ s) : splitLogin s = (none, s) := by
  simp [splitLogin, h]

theorem splitLogin_append {s : List Char} (h : '@' ∉ s) (t : List Char) :
    splitLogin (t ++ '@' :: s) = (some t, s) := by
  have hrev : ((t ++ '@' :: s).reverse.takeWhile (· != '@')).reverse = s := by
    rw [List.reverse_append, List.reverse_cons, List.append_assoc,
      Span.takeWhile_append_stop (by
        intro c hc
        have : c ≠ '@' := by rintro rfl; exact h (List.mem_reverse.1 hc)
        simp [this]) (by simp), List.reverse_reverse]
  have hlen : (t ++ '@' :: s).length - s.length - 1 = t.length := by
    simp only [List.length_append, List.length_cons]
    omega
  unfold splitLogin
  rw [if_pos (by simp)]
  dsimp only
  rw [hrev, hlen, List.take_left]

/-- The login is what stands before the last at sign. -/
theorem splitLogin_front (h : a.Sound kind scheme) : splitLogin a.front =
    (if a.login = [] then none else some a.login, a.host.text ++ a.portText) := by
  have hm := not_mem_hostPort h
  unfold front loginText
  split
  · next hl => exact splitLogin_of_not_mem hm
  · next hl =>
    rw [List.append_assoc, List.singleton_append]
    exact splitLogin_append hm a.login

theorem loginOf_login (h : a.Sound kind scheme) : loginOf a.login = (a.user, a.password) := by
  have hcolon : ':' ∉ a.user := fun hc => (isInside_of_isLogin (h.user _ hc)).2.2 rfl
  unfold loginOf login
  cases hp : a.password with
  | none =>
    rw [List.append_nil, Form.cut_eq_self hcolon]
    simp [encode_login h.user]
  | some p =>
    have ⟨hne, hp⟩ := h.password p hp
    rw [Form.cut_append hcolon]
    simp [encode_login h.user, encode_login hp, hne]

/-! ## Reading host and port -/

section TakeHost

variable {special : Bool}

theorem takeHost_free {s : List Char} (hs : ∀ c ∈ s, Host.isFree c = true) (rest : List Char) :
    takeHost special false (s ++ rest) = (takeHost special false rest).map (s ++ ·) id := by
  induction s with
  | nil => rfl
  | cons c s ih =>
    have hc := hs c (by simp)
    have hend := endsAuthority_of_isInside (isInside_of_isFree hc) special
    have hne {d : Char} (hd : Host.isFree d = false) : c ≠ d := by
      rintro rfl
      rw [hc] at hd
      cases hd
    rw [List.cons_append, takeHost, if_neg (by simp [hne (d := ':') rfl, hend]),
      if_neg (hne rfl), if_neg (hne rfl)]
    dsimp only
    rw [ih fun d hd => hs d (by simp [hd])]
    rfl

/-- Colons in square brackets belong to the host. -/
theorem takeHost_inside {s : List Char} (hs : ∀ c ∈ s, Ipv4.isHex c = true ∨ c = ':')
    (rest : List Char) : takeHost special true (s ++ ']' :: rest) =
      (takeHost special false rest).map (s ++ ']' :: ·) id := by
  induction s with
  | nil =>
    rw [List.nil_append, takeHost, if_neg (by cases special <;> decide), if_neg (by decide),
      if_pos rfl]
    rfl
  | cons c s ih =>
    have hc := hs c (by simp)
    have hend : endsAuthority special c = false := by
      refine endsAuthority_of_isInside ?_ special
      rcases hc with hc | rfl
      · exact isInside_of_isHex hc
      · rfl
    have hne {d : Char} (hd : Ipv4.isHex d = false) (hd' : d ≠ ':') : c ≠ d := by
      rintro rfl
      rcases hc with hc | hc
      · rw [hc] at hd
        cases hd
      · exact hd' hc
    rw [List.cons_append, takeHost, if_neg (by simp [hend]), if_neg (hne rfl (by decide)),
      if_neg (hne rfl (by decide))]
    dsimp only
    rw [ih fun d hd => hs d (by simp [hd])]
    rfl

theorem takeHost_stop {rest : List Char}
    (hr : ∀ c ∈ rest.head?, c = ':' ∨ endsAuthority special c = true) :
    takeHost special false rest = ([], rest) := by
  cases rest with
  | nil => rfl
  | cons c r =>
    rw [takeHost, if_pos]
    simpa using hr c (by simp)

/-- The host ends where the port or the authority's end begins. -/
theorem takeHost_text {h : Host} (hs : h.Sound special) {rest : List Char}
    (hr : ∀ c ∈ rest.head?, c = ':' ∨ endsAuthority special c = true) :
    takeHost special false (h.text ++ rest) = (h.text, rest) := by
  rcases Host.text_cases hs with hf | ⟨s, ht, hx⟩
  · rw [takeHost_free hf, takeHost_stop hr]
    simp
  · rw [ht, List.cons_append, takeHost, if_neg (by cases special <;> decide), if_pos rfl]
    dsimp only
    rw [List.append_assoc, List.singleton_append, takeHost_inside hx, takeHost_stop hr]
    simp

end TakeHost

/-! ### Ports -/

/-- The number that digits continue. -/
def digitsFrom (n : Nat) (ds : List Char) : Nat := ds.foldl (fun v d => v * 10 + (d.toNat - 48)) n

theorem le_digitsFrom (ds : List Char) (n : Nat) : n ≤ digitsFrom n ds := by
  induction ds generalizing n with
  | nil => exact Nat.le_refl n
  | cons d ds ih =>
    have := ih (n * 10 + (d.toNat - 48))
    show n ≤ digitsFrom (n * 10 + (d.toNat - 48)) ds
    omega

/-- Digits of a number in the range of ports are read. -/
theorem portDigits_append {ds rest : List Char} (hd : ∀ c ∈ ds, c.isDigit = true)
    (hr : ∀ c ∈ rest.head?, c = '/' ∨ c = '\\' ∨ endsPath c = true) {n : Nat} {any : Bool}
    (hn : digitsFrom n ds ≤ 65535) : portDigits n any (ds ++ rest) =
      .ok (if any || !ds.isEmpty then some (digitsFrom n ds) else none, rest) := by
  induction ds generalizing n any with
  | nil =>
    cases rest with
    | nil => cases any <;> rfl
    | cons c r =>
      have hc := hr c (by simp)
      have hdig : ¬ c.isDigit = true := by
        rcases hc with rfl | rfl | hc
        · decide
        · decide
        · simp only [endsPath, Bool.or_eq_true, beq_iff_eq] at hc
          rcases hc with rfl | rfl <;> decide
      rw [List.nil_append, portDigits, if_neg hdig, if_pos hc]
      cases any <;> rfl
  | cons d ds ih =>
    have hle := le_digitsFrom ds (n * 10 + (d.toNat - 48))
    change digitsFrom (n * 10 + (d.toNat - 48)) ds ≤ 65535 at hn
    rw [List.cons_append, portDigits, if_pos (hd d (by simp))]
    dsimp only
    rw [if_neg (by omega), ih (fun c hc => hd c (by simp [hc])) hn]
    simp [digitsFrom]

theorem digitsFrom_toDigits (n : Nat) : digitsFrom 0 (Nat.toDigits 10 n) = n := by
  refine Eq.trans ?_ (Nat.ofDigitChars_ten_toDigits (n := n))
  rw [Nat.ofDigitChars_eq_foldl]
  refine congrArg (fun f => List.foldl f 0 (Nat.toDigits 10 n)) (funext fun v => funext fun d => ?_)
  rw [Nat.mul_comm]
  rfl

/-- The port is read back, and what ends the authority is left. -/
theorem readPort_text (h : a.Sound kind scheme) {special : Bool} {rest : List Char}
    (hr : Ends special rest) : readPort scheme (a.portText ++ rest) = .ok (a.port, rest) := by
  have hr' : ∀ c ∈ rest.head?, c = '/' ∨ c = '\\' ∨ endsPath c = true := by
    intro c hc
    have := hr c hc
    simp only [endsAuthority, Bool.or_eq_true, beq_iff_eq, Bool.and_eq_true] at this
    rcases this with (h | h) | ⟨-, h⟩
    · exact Or.inl h
    · exact Or.inr (Or.inr h)
    · exact Or.inr (Or.inl h)
  unfold portText
  cases hp : a.port with
  | none =>
    cases rest with
    | nil => rfl
    | cons c r =>
      have hc : c ≠ ':' := by
        rintro rfl
        rcases hr' ':' (by simp) with h | h | h <;> cases h
      unfold readPort
      split
      · next heq => exact absurd (List.cons.inj heq).1 hc
      · rfl
  | some n =>
    obtain ⟨hle, hne⟩ := h.port n hp
    show (portDigits 0 false (Nat.toDigits 10 n ++ rest) >>= fun x =>
      .ok (if x.1 = usualPort scheme then none else x.1, x.2)) = _
    rw [portDigits_append (fun c hc => Nat.isDigit_of_mem_toDigits (by decide) (by decide) hc) hr'
      (by rw [digitsFrom_toDigits]; exact hle), digitsFrom_toDigits]
    simp [bind, Except.bind, Nat.toDigits_ne_nil, hne]

/-! ## Texts that begin alike -/

/-- The texts of authorities show what they were put together from. -/
theorem text_append_injective {b : Authority} (ha : a.Sound kind scheme)
    (hb : b.Sound kind scheme) {rest rest' : List Char} (hr : Ends kind.isSpecial rest)
    (hr' : Ends kind.isSpecial rest') (h : a.text ++ rest = b.text ++ rest') :
    a = b ∧ rest = rest' := by
  have hnil : Ends kind.isSpecial [] := by intro c hc; cases hc
  rw [text_eq, text_eq] at h
  have h : a.front ++ rest = b.front ++ rest' := by simpa using h
  obtain ⟨ha₁, ha₂⟩ := takeWhile_front ha hr
  obtain ⟨hb₁, hb₂⟩ := takeWhile_front hb hr'
  rw [h] at ha₁ ha₂
  have hfront : a.front = b.front := ha₁.symm.trans hb₁
  have hsplit := splitLogin_front ha
  rw [hfront, splitLogin_front hb, Prod.mk.injEq] at hsplit
  obtain ⟨hlogin, hhost⟩ := hsplit
  have hlogin : b.login = a.login := by
    split at hlogin <;> split at hlogin <;> simp_all
  have hlog := loginOf_login ha
  rw [← hlogin, loginOf_login hb, Prod.mk.injEq] at hlog
  have hport (d : Authority) : ∀ c ∈ d.portText.head?, c = ':' ∨
      endsAuthority kind.isSpecial c = true := by
    intro c hc
    unfold portText at hc
    split at hc
    · exact Or.inl (by simpa using hc.symm)
    · cases hc
  have htake := takeHost_text ha.host (hport a)
  rw [← hhost, takeHost_text hb.host (hport b), Prod.mk.injEq] at htake
  have hread := readPort_text ha hnil
  rw [← htake.2, readPort_text hb hnil, Except.ok.injEq, Prod.mk.injEq] at hread
  refine ⟨?_, ha₂.symm.trans hb₂⟩
  obtain ⟨user, password, host, port⟩ := a
  obtain ⟨user', password', host', port'⟩ := b
  obtain ⟨rfl, rfl⟩ := hlog
  cases Host.text_injective hb.host ha.host htake.1
  cases hread.1
  rfl

/-! ## Reading authorities -/

/-- When host and port can be read, and what comes of it. -/
theorem readHost_ok {user s rest : List Char} {password : Option (List Char)} :
    readHost kind scheme user password s = .ok (a, rest) ↔
      (kind.isSpecial = true → (takeHost kind.isSpecial false s).1 ≠ []) ∧
      ∃ host, (if kind.isSpecial then Host.ofWeb (takeHost kind.isSpecial false s).1
          else Host.ofOther (takeHost kind.isSpecial false s).1) = .ok host ∧
        (host = Host.none → (takeHost kind.isSpecial false s).2.head? ≠ some ':') ∧
        ∃ port, readPort scheme (takeHost kind.isSpecial false s).2 = .ok (port, rest) ∧
          (host = Host.none → user = [] ∧ password = none) ∧ ⟨user, password, host, port⟩ = a := by
  unfold readHost
  dsimp only
  generalize takeHost kind.isSpecial false s = t
  simp only [error_bind]
  cases kind.isSpecial <;> simp [guard_ok, bind_ok, Prod.exists]

theorem le_of_portDigits {s rest : List Char} {n m : Nat} {any : Bool}
    (h : portDigits n any s = .ok (some m, rest)) (hn : n ≤ 65535) : m ≤ 65535 := by
  induction s generalizing n any with
  | nil =>
    cases any <;> cases h
    exact hn
  | cons c s ih =>
    unfold portDigits at h
    split at h
    · dsimp only at h
      split at h
      · cases h
      · next hle => exact ih h (by omega)
    · split at h
      · cases any <;> cases h
        exact hn
      · cases h

/-- A port that is kept is in range, and not the usual one. -/
theorem port_of_readPort {s rest : List Char} {n : Nat}
    (h : readPort scheme s = .ok (some n, rest)) : n ≤ 65535 ∧ some n ≠ usualPort scheme := by
  unfold readPort at h
  split at h
  · obtain ⟨⟨port, rest'⟩, hp, he⟩ := bind_ok.1 h
    simp only [Except.ok.injEq, Prod.mk.injEq] at he
    obtain ⟨he, -⟩ := he
    split at he
    · cases he
    · next hne =>
      subst he
      exact ⟨le_of_portDigits hp (by omega), hne⟩
  · cases h

theorem sound_of_readHost (hk : kind ≠ .file) {user s rest : List Char}
    {password : Option (List Char)} (hu : ∀ c ∈ user, isLogin c = true)
    (hp : ∀ p, password = some p → p ≠ [] ∧ ∀ c ∈ p, isLogin c = true)
    (h : readHost kind scheme user password s = .ok (a, rest)) : a.Sound kind scheme := by
  obtain ⟨hne, host, hhost, hcolon, port, hport, hbare, rfl⟩ := readHost_ok.1 h
  have hsound : host.Sound kind.isSpecial := by
    cases hs : kind.isSpecial with
    | true =>
      rw [hs, if_pos rfl] at hhost
      exact (Host.sound_of_ofWeb hhost).1
    | false =>
      rw [hs, if_neg (by simp)] at hhost
      exact Host.sound_of_ofOther hhost
  refine ⟨hu, hp, hsound, ?_, ?_, ?_, fun h => absurd h hk⟩
  · intro n hn
    subst hn
    exact port_of_readPort hport
  · intro hnone
    refine ⟨(hbare hnone).1, (hbare hnone).2, ?_⟩
    -- no colon follows a host that is left out
    have hc := hcolon hnone
    unfold readPort at hport
    split at hport
    · next heq => simp [heq] at hc
    · cases hport
      rfl
  · rintro rfl
    exact (Host.sound_of_ofWeb hhost).2

theorem login_of_loginOf (s : List Char) : (∀ c ∈ (loginOf s).1, isLogin c = true) ∧
    ∀ p, (loginOf s).2 = some p → p ≠ [] ∧ ∀ c ∈ p, isLogin c = true := by
  unfold loginOf
  dsimp only
  refine ⟨fun c hc => isLogin_of_mem hc, fun p hp => ?_⟩
  split at hp
  · cases hp
  · next hne =>
    cases hp
    exact ⟨by simpa [Percent.encode_eq_nil] using hne, fun c hc => isLogin_of_mem hc⟩

/-- What is read as an authority of a URL that is not of files. -/
theorem sound_of_readAuthority (hk : kind ≠ .file) {s rest : List Char}
    (h : readAuthority kind scheme s = .ok (a, rest)) : a.Sound kind scheme := by
  unfold readAuthority at h
  dsimp only at h
  split at h
  · exact sound_of_readHost hk (by simp) (by simp) h
  · split at h
    · cases h
    · exact sound_of_readHost hk (by simp) (by simp) h
  · exact sound_of_readHost hk (login_of_loginOf _).1 (login_of_loginOf _).2 h

section Front

variable {rest : List Char}

/-- The host is cut off the text as it stands there. -/
theorem takeHost_front (h : a.Sound kind scheme) (hr : Ends kind.isSpecial rest) :
    takeHost kind.isSpecial false (a.host.text ++ (a.portText ++ rest)) =
      (a.host.text, a.portText ++ rest) := by
  refine takeHost_text h.host ?_
  intro c hc
  unfold portText at hc
  split at hc
  · exact Or.inl (by simpa using hc.symm)
  · exact Or.inr (hr c hc)

/-- The login is cut off the text as it stands there. -/
theorem readAuthority_front (h : a.Sound kind scheme) (hr : Ends kind.isSpecial rest) :
    readAuthority kind scheme (a.front ++ rest) =
      readHost kind scheme a.user a.password (a.host.text ++ (a.portText ++ rest)) := by
  obtain ⟨hfront, hrest⟩ := takeWhile_front h hr
  unfold readAuthority
  dsimp only
  rw [hfront, hrest, splitLogin_front h]
  by_cases hl : a.login = []
  · obtain ⟨hu, hp⟩ := login_eq_nil.1 hl
    rw [if_pos hl]
    dsimp only
    rw [hu, hp, front, loginText, if_pos hl, List.nil_append, List.append_assoc]
  · rw [if_neg hl]
    obtain ⟨c, l, hcl⟩ := List.exists_cons_of_ne_nil hl
    have hlog := loginOf_login h
    rw [hcl] at hlog ⊢
    dsimp only
    rw [hlog, List.append_assoc]

/-- An authority is read back, if a domain name is mapped to itself. -/
theorem readAuthority_text (hk : kind ≠ .file) (h : a.Sound kind scheme)
    (hr : Ends kind.isSpecial rest)
    (hd : kind.isSpecial = true → ∀ d, a.host = .name d → DomainName.toAscii d = some d) :
    readAuthority kind scheme (a.front ++ rest) = .ok (a, rest) := by
  have hweb : kind.isSpecial = true → kind = .web := by
    intro hsp
    cases kind with
    | web => rfl
    | file => exact absurd rfl hk
    | other => cases hsp
  have hhost : (if kind.isSpecial then Host.ofWeb a.host.text else Host.ofOther a.host.text) =
      .ok a.host := by
    have hs := h.host
    cases hsp : kind.isSpecial with
    | true =>
      rw [hsp] at hs
      exact Host.ofWeb_text hs (h.web (hweb hsp)) (hd hsp)
    | false =>
      rw [hsp] at hs
      exact Host.ofOther_text hs
  rw [readAuthority_front h hr, readHost_ok, takeHost_front h hr]
  refine ⟨fun hsp => ?_, a.host, hhost, fun hnone => ?_, a.port, readPort_text h hr,
    fun hnone => ⟨(h.bare hnone).1, (h.bare hnone).2.1⟩, rfl⟩
  · rw [ne_eq, Host.text_eq_nil h.host]
    exact h.web (hweb hsp)
  · rw [portText, (h.bare hnone).2.2, List.nil_append]
    intro hc
    have := hr ':' (Option.mem_def.2 hc)
    cases hsp : kind.isSpecial <;> rw [hsp] at this <;> cases this

end Front

end Authority

end UrlMask.Url
