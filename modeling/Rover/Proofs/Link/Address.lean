import Rover.Link

/-!
# The address of the gateway

The address of the socket is made by looking for words in the address that is given, wherever they
stand. It keeps the scheme, the host and the gateway exactly if none of these words stands where it
is taken for something else.
-/

namespace Rover

namespace Text

section
variable {part new x y s : Chars} {c : Char}

theorem occurs_iff : occurs part s ↔ part <:+: s := by
  induction s with
  | nil => simp [occurs]
  | cons c cs ih => simp [occurs, List.infix_cons_iff, ih]

theorem before_cons (h : ¬ part <+: c :: s) : before part (c :: s) = c :: before part s :=
  if_neg (mt List.isPrefixOf_iff_prefix.mp h)

theorem prefix_before (part s : Chars) : before part s <+: s := by
  induction s with
  | nil => exact List.prefix_rfl
  | cons c s ih =>
    rw [before]
    split
    · exact List.nil_prefix
    · exact List.cons_prefix_cons.mpr ⟨rfl, ih⟩

theorem before_singleton (c : Char) (s : Chars) : before [c] s = s.takeWhile (· ≠ c) := by
  induction s with
  | nil => rfl
  | cons d s ih =>
    by_cases hd : d = c <;> simp [before, ih, hd, Ne.symm]

theorem replaceAll_cons (h : ¬ part <+: c :: s) :
    replaceAll part new (c :: s) = c :: replaceAll part new s := by
  rw [replaceAll, if_neg (mt List.isPrefixOf_iff_prefix.mp h)]

/-- No occurrence of a word begins in the first of two texts that follow on each other. -/
def Skips (part x s : Chars) : Prop := ∀ c y, c :: y <:+ x → ¬ part <+: c :: (y ++ s)

theorem Skips.tail (h : Skips part (c :: x) s) : Skips part x s :=
  fun a y hy => h a y (hy.trans (List.suffix_cons c x))

theorem Skips.head (h : Skips part (c :: x) s) : ¬ part <+: c :: (x ++ s) :=
  h c x List.suffix_rfl

theorem Skips.before (h : Skips part x s) : before part (x ++ s) = x ++ before part s := by
  induction x with
  | nil => rfl
  | cons c x ih => rw [List.cons_append, before_cons h.head, ih h.tail, List.cons_append]

theorem Skips.replaceAll (h : Skips part x s) :
    replaceAll part new (x ++ s) = x ++ replaceAll part new s := by
  induction x with
  | nil => rfl
  | cons c x ih => rw [List.cons_append, replaceAll_cons h.head, ih h.tail, List.cons_append]

theorem Skips.infix_iff (h : Skips part x s) : part <:+: x ++ s ↔ part <:+: s := by
  induction x with
  | nil => rfl
  | cons c x ih => rw [List.cons_append, List.infix_cons_iff, or_iff_right h.head, ih h.tail]

theorem replaceAll_of_not_infix (h : ¬ part <:+: s) : replaceAll part new s = s := by
  have hskip : Skips part s [] := fun c y hy hp =>
    h (hp.isInfix.trans (by simpa using hy.isInfix))
  simpa [replaceAll] using (hskip.replaceAll : replaceAll part new _ = _)

end

end Text

namespace GatewayAddress

open Text

inductive Scheme where
  | http | https | ws | wss
deriving DecidableEq

namespace Scheme

def text : Scheme → String
  | http => "http://"
  | https => "https://"
  | ws => "ws://"
  | wss => "wss://"

def opening (s : Scheme) : Chars := s.text.toList

def socket : Scheme → Scheme
  | http | ws => ws
  | https | wss => wss

end Scheme

open Scheme (http https ws wss opening)

section
variable {s t u : Scheme} {x y : Chars} {c : Char}

theorem replaceAll_opening : replaceAll s.opening u.opening (t.opening ++ x) =
    (if t = s then u else t).opening ++ replaceAll s.opening u.opening x := by
  cases s <;> cases t <;> simp [opening, Scheme.text, replaceAll]

def gatewayText : String := "/ws/gateway"

def gateway : Chars := gatewayText.toList

theorem gateway_infix_opening (y : Chars) :
    gateway <:+: s.opening ++ y ↔ gateway <:+: '/' :: y := by
  cases s <;> simp [gateway, gatewayText, opening, Scheme.text, List.infix_cons_iff]

/-! ## Hosts and paths -/

def IsPath (p : Chars) : Prop := p = [] ∨ ∃ rest, p = '/' :: rest

/-- A host, perhaps with a port: it holds no slash and does not end in the colon of a port. -/
structure IsAuthority (a : Chars) : Prop where
  slash : '/' ∉ a
  last : a.getLast? ≠ some ':'

variable {a p q w : Chars}

theorem isPath_before (hp : IsPath p) : IsPath (before w p) := by
  rcases hp with rfl | ⟨rest, rfl⟩ <;> rw [before]
  · exact .inl rfl
  · split
    · exact .inl rfl
    · exact .inr ⟨_, rfl⟩

theorem eq_nil_of_isPath (ha : '/' ∉ a ++ x) (h : IsPath (x ++ y)) : x = [] := by
  cases x with
  | nil => rfl
  | cons c x =>
    rcases h with h | ⟨rest, h⟩ <;> cases h
    simp at ha

theorem eq_of_append_eq (ha : '/' ∉ a) (hx : '/' ∉ x) (hp : IsPath p) (hq : IsPath q)
    (h : a ++ p = x ++ q) : a = x ∧ p = q := by
  rcases List.append_eq_append_iff.mp h with ⟨more, rfl, rfl⟩ | ⟨more, rfl, rfl⟩
  · simp [eq_nil_of_isPath hx hp]
  · simp [eq_nil_of_isPath ha hq]

theorem not_infix_of_colon (h : ¬ ":/".toList <:+: x) : ¬ "://".toList <:+: x :=
  mt (List.IsInfix.trans (by decide)) h

theorem not_infix_append (h : ¬ ":/".toList <:+: x) : ¬ "://".toList <:+: x ++ gatewayPath := by
  rw [List.infix_append_iff]
  rintro (hx | hpath | ⟨front, rest, hsplit, hfront, hrest⟩)
  · exact not_infix_of_colon h hx
  · exact absurd hpath (by decide +kernel)
  · have hcut : ∀ k < 4, "://".toList.drop k <+: gatewayPath →
        ":/".toList <+: "://".toList.take k := by decide +kernel
    have hlength : 3 = _ := congrArg List.length hsplit
    have hcut := hcut front.length (by rw [List.length_append] at hlength; omega)
    rw [hsplit, List.drop_left, List.take_left] at hcut
    exact h ((hcut hrest).isInfix.trans hfront.isInfix)

theorem skips_head (ha : c ∉ a) : Skips (c :: w) a p := by
  intro d b hb h
  obtain ⟨rfl, -⟩ := List.cons_prefix_cons.mp h
  exact ha (hb.subset List.mem_cons_self)

theorem skips_colon (ha : IsAuthority a) (hp : IsPath p) (hw : '/' ∉ w)
    (hlast : w.getLast? = some ':') : Skips (w ++ ['/', '/']) a p := by
  rintro c b ⟨front, rfl⟩ ⟨rest, hrest⟩
  have hslash : '/' ∉ c :: b := fun h => ha.slash (List.mem_append_right front h)
  rw [List.append_assoc, ← List.cons_append] at hrest
  obtain ⟨rfl, -⟩ := eq_of_append_eq hw hslash (.inr ⟨_, rfl⟩) hp hrest
  exact ha.last (by rw [List.getLast?_append, hlast]; rfl)

theorem skips_opening (ha : IsAuthority a) (hp : IsPath p) : Skips s.opening a p := by
  have hopening : s.opening = s.opening.dropLast.dropLast ++ ['/', '/'] := by cases s <;> decide
  rw [hopening]
  exact skips_colon ha hp (by cases s <;> decide) (by cases s <;> decide)

section
variable (ha : IsAuthority a) (hp : IsPath p) (hclear : ¬ "://".toList <:+: p)
include ha hp hclear

theorem replaceAll_address : replaceAll s.opening u.opening (t.opening ++ (a ++ p)) =
    (if t = s then u else t).opening ++ (a ++ p) := by
  have hword : "://".toList <:+: s.opening := by cases s <;> decide +kernel
  rw [replaceAll_opening, (skips_opening ha hp).replaceAll,
    replaceAll_of_not_infix fun hs => hclear (hword.trans hs)]

theorem toSocketScheme_address :
    toSocketScheme (t.opening ++ (a ++ p)) = t.socket.opening ++ (a ++ p) := by
  change replaceAll http.opening ws.opening (replaceAll https.opening wss.opening _) = _
  rw [replaceAll_address ha hp hclear, replaceAll_address ha hp hclear]
  cases t <;> rfl

theorem hostOf_address : hostOf (t.opening ++ (a ++ p)) = before [':'] a := by
  have hweb : toWebScheme (t.opening ++ (a ++ p)) = _ :=
    (congrArg (replaceAll ws.opening http.opening)
      (replaceAll_address (s := wss) (u := https) ha hp hclear)).trans
      (replaceAll_address ha hp hclear)
  have hafter (r : Scheme) (x : Chars) : after? "://".toList (r.opening ++ x) = some x := by
    cases r <;> simp [opening, Scheme.text, after?]
  have hpath : before ['/'] (before ([':'] ++ ['/', '/']) (a ++ p)) = a := by
    rw [(skips_colon ha hp (by decide) rfl).before, (skips_head ha.slash).before]
    rcases isPath_before (w := [':'] ++ ['/', '/']) hp with h | ⟨rest, h⟩ <;> rw [h]
    all_goals simp [before]
  unfold hostOf
  rw [hweb, hafter]
  exact congrArg _ hpath

end

end

/-- The parts of an address: the authority is the host, perhaps with a port after a colon. -/
structure Parts where
  scheme : Scheme
  authority : Chars
  path : Chars
  isAuthority : IsAuthority authority
  rooted : IsPath path

namespace Parts

variable (p : Parts)

def host : Chars := p.authority.takeWhile (· ≠ ':')

def text : Chars := p.scheme.opening ++ (p.authority ++ p.path)

def url : String := String.ofList p.text

/-- A socket leads to the host by the scheme for sockets, along a path with the gateway in it, and
its address stands for itself. -/
structure Leads (socket : String) : Prop where
  path : ∃ path, IsPath path ∧ gateway <:+: path ∧
    socket.toList = p.scheme.socket.opening ++ (p.authority ++ path)
  again : (ofUrl socket).socketUrl = socket

/-- No word that is looked for stands where it is taken for something else. -/
def Plain : Prop :=
  gateway <:+: p.path ∨ ¬ (p.authority = "ws".toList ∧ "/gateway".toList <+: p.path) ∧
    ("block".toList <+: p.authority → p.scheme.socket = p.scheme ∧ p.authority = "block".toList)

theorem host_eq : p.host = before [':'] p.authority := (before_singleton _ _).symm

theorem gateway_infix_text : gateway <:+: p.text ↔
    gateway <:+: p.path ∨ p.authority = "ws".toList ∧ "/gateway".toList <+: p.path := by
  have hskip : gateway <:+: p.authority ++ p.path ↔ gateway <:+: p.path :=
    (skips_head p.isAuthority.slash).infix_iff
  rw [text, gateway_infix_opening, List.infix_cons_iff, hskip, or_comm]
  refine or_congr Iff.rfl ⟨fun ⟨rest, h⟩ => ?_, fun ⟨ha, rest, h⟩ => ⟨rest, ?_⟩⟩
  · have hsplit : "ws".toList ++ ("/gateway".toList ++ rest) = p.authority ++ p.path :=
      (List.cons.inj h).2
    obtain ⟨ha, hpath⟩ :=
      eq_of_append_eq (by decide) p.isAuthority.slash (.inr ⟨_, rfl⟩) p.rooted hsplit
    exact ⟨ha.symm, rest, hpath⟩
  · rw [ha, ← h]
    rfl

variable {p}

theorem leads_iff {path : Chars} (hpath : IsPath path) (hclear : ¬ "://".toList <:+: path) :
    p.Leads (String.ofList (p.scheme.socket.opening ++ (p.authority ++ path))) ↔
      gateway <:+: path := by
  constructor
  · rintro ⟨⟨path', -, hgateway, heq⟩, -⟩
    rw [String.toList_ofList] at heq
    rwa [List.append_cancel_left (List.append_cancel_left heq)]
  · intro hgateway
    refine ⟨⟨path, hpath, hgateway, String.toList_ofList⟩, ?_⟩
    have hfound := hgateway.trans ((List.suffix_append p.authority path).trans
      (List.suffix_append p.scheme.socket.opening _)).isInfix
    have hsocket : socketOf _ = _ := (if_pos (occurs_iff.mpr hfound)).trans
      (toSocketScheme_address p.isAuthority hpath hclear)
    rw [ofUrl, String.toList_ofList, hsocket]
    cases p.scheme <;> rfl

theorem before_block : before "/block".toList p.text =
    if "block".toList <+: p.authority then p.scheme.opening.dropLast
    else p.scheme.opening ++ (p.authority ++ before "/block".toList p.path) := by
  have hskip : before "/block".toList (p.authority ++ p.path) =
      p.authority ++ before "/block".toList p.path :=
    (skips_head p.isAuthority.slash).before
  have hopening (s : Scheme) (x : Chars) : before "/block".toList (s.opening ++ x) =
      if "block".toList <+: x then s.opening.dropLast
      else s.opening ++ before "/block".toList x := by
    by_cases h : "block".toList <+: x <;> cases s <;> simp_all [opening, Scheme.text, before]
  have hword : "block".toList <+: p.authority ++ p.path ↔ "block".toList <+: p.authority := by
    refine ⟨fun ⟨rest, h⟩ => ?_, fun h => h.trans (List.prefix_append _ _)⟩
    rcases List.append_eq_append_iff.mp h with ⟨more, hmore, -⟩ | ⟨more, hmore, hpath⟩
    · exact ⟨more, hmore.symm⟩
    · have hslash : '/' ∉ p.authority ++ more := by
        rw [← hmore]
        decide
      rw [eq_nil_of_isPath hslash (hpath ▸ p.rooted), List.append_nil] at hmore
      exact hmore ▸ List.prefix_rfl
  rw [text, hopening, hskip]
  simp only [hword]

/-- What is made of an address whose host is cut off. -/
theorem leads_block_iff :
    p.Leads (String.ofList (p.scheme.opening ++ ("block".toList ++ gateway))) ↔
      p.scheme.socket = p.scheme ∧ p.authority = "block".toList := by
  have hgateway : IsPath gateway := .inr ⟨_, rfl⟩
  constructor
  · rintro ⟨⟨path, hpath, -, heq⟩, -⟩
    rw [String.toList_ofList] at heq
    have hscheme : p.scheme.socket = p.scheme := by
      revert heq
      cases p.scheme <;> simp [opening, Scheme.text, Scheme.socket]
    rw [hscheme] at heq
    exact ⟨hscheme, (eq_of_append_eq (by decide) p.isAuthority.slash hgateway hpath
      (List.append_cancel_left heq)).1.symm⟩
  · rintro ⟨hscheme, ha⟩
    have hleads := (leads_iff (p := p) hgateway (by decide +kernel)).mpr List.infix_rfl
    rwa [hscheme, ha] at hleads

theorem leads_socketOf_iff (h : ¬ ":/".toList <:+: p.path) :
    p.Leads (String.ofList (socketOf p.text)) ↔ p.Plain := by
  unfold Plain
  by_cases htext : gateway <:+: p.text
  · have hsocket : socketOf p.text = _ := (if_pos (occurs_iff.mpr htext)).trans
      (toSocketScheme_address p.isAuthority p.rooted (not_infix_of_colon h))
    rw [hsocket, leads_iff p.rooted (not_infix_of_colon h)]
    -- a host named `ws` makes the gateway out of a scheme and a path
    rcases p.gateway_infix_text.mp htext with h | h
    · exact iff_of_true h (.inl h)
    · exact ⟨.inl, fun hplain => hplain.resolve_right fun hnot => hnot.1 h⟩
  · have hsocket : socketOf p.text = _ := if_neg (mt occurs_iff.mp htext)
    rw [gateway_infix_text, not_or] at htext
    rw [hsocket, before_block, or_iff_right htext.1, and_iff_right htext.2]
    split
    · rename_i hword
      have hblock : toSocketScheme p.scheme.opening.dropLast ++ gatewayPath =
          p.scheme.opening ++ ("block".toList ++ gateway) := by
        cases p.scheme <;> decide +kernel
      rw [hblock, leads_block_iff]
      exact ⟨fun h _ => h, fun h => h hword⟩
    · rename_i hword
      have hpath := isPath_before (w := "/block".toList) p.rooted
      have hfront : ¬ ":/".toList <:+: before "/block".toList p.path := fun hfront =>
        h (hfront.trans (prefix_before _ _).isInfix)
      rw [toSocketScheme_address p.isAuthority hpath (not_infix_of_colon hfront),
        List.append_assoc, List.append_assoc, leads_iff _ (not_infix_append hfront)]
      · exact iff_of_true ((by decide +kernel : gateway <:+: gatewayPath).trans
          (List.suffix_append _ _).isInfix) fun hblock => absurd hblock hword
      · rcases hpath with h | ⟨rest, h⟩ <;> exact .inr ⟨_, by rw [h]; rfl⟩

end Parts

/-- Where the path holds no colon in front of a slash, the host is known, and the address of the
socket is as expected exactly if no word is mistaken for another. -/
theorem ofUrl_leads_iff (p : Parts) (h : ¬ ":/".toList <:+: p.path) :
    (ofUrl p.url).host.toList = p.host ∧ (p.Leads (ofUrl p.url).socketUrl ↔ p.Plain) := by
  rw [← Parts.leads_socketOf_iff h, p.host_eq,
    ← hostOf_address p.isAuthority p.rooted (not_infix_of_colon h)]
  simp only [ofUrl, Parts.url, String.toList_ofList]
  exact ⟨rfl, trivial⟩

def blocky : Parts where
  scheme := http
  authority := "blocky.com".toList
  path := []
  isAuthority := ⟨by decide, by decide⟩
  rooted := .inl rfl

theorem ofUrl_leads_iff_blocky : ¬ ":/".toList <:+: blocky.path ∧
    (ofUrl blocky.url).host.toList = blocky.host :=
  ⟨by decide, (ofUrl_leads_iff blocky (by decide)).1⟩

theorem ofUrl_blocky : (ofUrl blocky.url).socketUrl = "http://block/ws/gateway" ∧
    ¬ blocky.Leads (ofUrl blocky.url).socketUrl := by
  have hsocket : (ofUrl blocky.url).socketUrl = "http://block/ws/gateway" := by decide +kernel
  rw [hsocket]
  refine ⟨rfl, fun ⟨⟨path, _, _, hpath⟩, _⟩ => ?_⟩
  have hfirst : some 'h' = some 'w' := congrArg List.head? hpath
  exact absurd hfirst (by decide)

end GatewayAddress

end Rover
