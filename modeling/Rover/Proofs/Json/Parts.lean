import Rover.Proofs.Json

/-!
# The parts of a JSON text

The text of a value ends where the value ends: a reader who counts brackets and minds quotes is, at
the end of it, where the reader was before it, and cannot read a comma or a closing bracket any
further. So a text determines the texts of its parts, whatever follows.
-/

namespace Rover.Json

open List

/-! ## Reading a text -/

/-- Whether a reader is inside quotes, and there right behind a backslash. -/
inductive Mode where
  | plain
  | quoted
  | escaped
deriving DecidableEq, Repr

abbrev Place := Nat × Mode

/-- Where a character leads. Outside of all brackets a comma or a closing bracket ends the part that
is being read. -/
def advance : Place → Char → Option Place
  | (depth, .quoted), c =>
    some (depth, if c = '"' then .plain else if c = '\\' then .escaped else .quoted)
  | (depth, .escaped), _ => some (depth, .quoted)
  | (depth, .plain), c =>
    if c = '"' then some (depth, .quoted)
    else if c = '[' ∨ c = '\x7b' then some (depth + 1, .plain)
    else if c = ']' ∨ c = '\x7d' then
      match depth with
      | 0 => none
      | depth + 1 => some (depth, .plain)
    else if c = ',' ∧ depth = 0 then none
    else some (depth, .plain)

variable (p : Place)

def walk (cs : Chars) : Option Place := cs.foldlM advance p

theorem walk_append (cs ds : Chars) : walk p (cs ++ ds) = (walk p cs).bind fun q => walk q ds :=
  foldlM_append

theorem walk_cons (c : Char) (cs : Chars) :
    walk p (c :: cs) = (advance p c).bind fun q => walk q cs :=
  foldlM_cons

def Closed (cs : Chars) : Prop := walk p cs = some p

theorem closed_nil : Closed p [] := rfl

variable {p : Place}

theorem Closed.append {cs ds : Chars} (h : Closed p cs) (h' : Closed p ds) :
    Closed p (cs ++ ds) := by
  unfold Closed
  rw [walk_append, h]
  exact h'

variable {cs : Chars}

theorem Closed.walk_append (h : Closed p cs) (ds : Chars) : walk p (cs ++ ds) = walk p ds := by
  rw [Json.walk_append, h]
  rfl

theorem closed_of_forall (h : ∀ c ∈ cs, advance p c = some p) : Closed p cs := by
  induction cs with
  | nil => exact closed_nil p
  | cons c rest ih =>
    rw [forall_mem_cons] at h
    unfold Closed
    rw [walk_cons, h.1]
    exact ih h.2

theorem closed_flatMap {α : Type} {f : α → Chars} (h : ∀ a, Closed p (f a))
    (as : List α) : Closed p (as.flatMap f) := by
  induction as with
  | nil => exact closed_nil p
  | cons a rest ih =>
    exact (h a).append ih

theorem closed_brackets {left right : Char} {depth : Nat}
    (hleft : left = '[' ∨ left = '\x7b') (hright : right = ']' ∨ right = '\x7d')
    (h : Closed (depth + 1, .plain) cs) : Closed (depth, .plain) (left :: (cs ++ [right])) := by
  have hin : advance (depth, .plain) left = some (depth + 1, .plain) := by
    rcases hleft with rfl | rfl <;> simp [advance]
  have hout : advance (depth + 1, .plain) right = some (depth, .plain) := by
    rcases hright with rfl | rfl <;> simp [advance]
  unfold Closed
  rw [walk_cons, hin, Option.bind_some, h.walk_append, walk_cons, hout]
  rfl

/-! ## Numbers -/

def isBare (c : Char) : Bool := c ∉ ['"', '\\', '[', ']', '\x7b', '\x7d', ',']

theorem advance_of_isBare {c : Char} (h : isBare c) (depth : Nat) :
    advance (depth, .plain) c = some (depth, .plain) ∧
      advance (depth, .quoted) c = some (depth, .quoted) := by
  simp only [isBare, List.mem_cons, List.not_mem_nil, or_false, not_or, decide_eq_true_eq] at h
  simp [advance, h]

theorem isBare_of_mem_toDigits {base : Nat} (hlo : 1 < base) (hhi : base ≤ 16) {n : Nat}
    {c : Char} (h : c ∈ Nat.toDigits base n) : isBare c := by
  have hdigit : ∀ d < 16, isBare d.digitChar := by decide
  -- the last digit is a remainder, and the digits before it are those of the quotient
  induction n using Nat.strongRecOn with
  | ind n ih =>
    by_cases hlt : n < base
    · rw [Nat.toDigits_of_lt_base hlt, List.mem_singleton] at h
      rw [h]
      exact hdigit n (by omega)
    · rw [Nat.toDigits_of_base_le hlo (by omega), List.mem_append, List.mem_singleton] at h
      rcases h with h | h
      · exact ih (n / base) (Nat.div_lt_self (by omega) hlo) h
      · have hmod : n % base < base := Nat.mod_lt n (by omega)
        rw [h]
        exact hdigit _ (by omega)

def Bare (text : String) : Prop := ∀ c ∈ text.toList, isBare c

instance (text : String) : Decidable (Bare text) :=
  decidable_of_iff (text.toList.all isBare) List.all_eq_true

theorem Bare.append {a b : String} (ha : Bare a) (hb : Bare b) : Bare (a ++ b) := by
  intro c hc
  rw [String.toList_append, List.mem_append] at hc
  exact hc.elim (ha c) (hb c)

theorem Bare.closed {text : String} (h : Bare text) (depth : Nat) :
    Closed (depth, .plain) text.toList :=
  closed_of_forall fun c hc => (advance_of_isBare (h c hc) depth).1

theorem bare_ofList (h : ∀ c ∈ cs, isBare c) : Bare (String.ofList cs) := by
  intro c hc
  rw [String.toList_ofList] at hc
  exact h c hc

theorem bare_natText (n : Nat) : Bare (natText n) :=
  bare_ofList fun _ hc => isBare_of_mem_toDigits (by decide) (by decide) hc

theorem bare_zeros (n : Nat) : Bare (Number.zeros n) := by
  apply bare_ofList
  intro c hc
  rw [List.eq_of_mem_replicate hc]
  decide

theorem bare_intText (n : Int) : Bare (Number.intText n) := by
  unfold Number.intText
  split
  · exact Bare.append (by decide) (bare_natText _)
  · exact bare_natText _

theorem bare_decimalText (d : Decimal) : Bare (Number.decimalText d) := by
  have hall : ∀ c ∈ Nat.toDigits 10 d.digits, isBare c :=
    fun c hc => isBare_of_mem_toDigits (by decide) (by decide) hc
  have hdigits : Bare (String.ofList (Nat.toDigits 10 d.digits)) := bare_ofList hall
  have htake : ∀ n, Bare (String.ofList ((Nat.toDigits 10 d.digits).take n)) :=
    fun n => bare_ofList fun c hc => hall c (List.mem_of_mem_take hc)
  have hdrop : ∀ n, Bare (String.ofList ((Nat.toDigits 10 d.digits).drop n)) :=
    fun n => bare_ofList fun c hc => hall c (List.mem_of_mem_drop hc)
  have hpow : ∀ n : Nat, Bare (if (natText n).length < 2 then "0" ++ natText n else natText n) := by
    intro n
    split
    · exact Bare.append (by decide) (bare_natText n)
    · exact bare_natText n
  unfold Number.decimalText
  dsimp only
  split
  · split
    · exact (Bare.append (Bare.append (by decide) (bare_zeros _)) hdigits)
    · split
      · exact (hdigits.append (bare_zeros _)).append (by decide)
      · exact ((htake _).append (by decide)).append (hdrop _)
  · refine Bare.append (Bare.append ?_ ?_) (hpow _)
    · split
      · exact htake 1
      · exact ((htake 1).append (by decide)).append (hdrop 1)
    · split <;> decide

theorem bare_floatText (x : Float) : Bare (floatText x) := by
  unfold floatText
  split
  · decide
  · split
    · split <;> decide
    · unfold Number.floatText
      split
      · split
        · decide
        · split <;> decide
      · have hsign : ∀ b : Bool, Bare (if b then "-" else "") := by decide
        dsimp only
        split
        · exact (hsign _).append (by decide)
        · exact (hsign _).append (bare_decimalText _)

/-! ## Texts in quotes -/

theorem closed_unitText (depth n : Nat) : Closed (depth, .quoted) (unitText n).toList := by
  have hdigits : Closed (depth, .quoted) (Quoted.hex 4 n).toList := by
    apply closed_of_forall
    intro c hc
    refine (advance_of_isBare ?_ depth).2
    rw [Quoted.hex, String.toList_ofList, List.mem_append] at hc
    rcases hc with hc | hc
    · rw [List.eq_of_mem_replicate hc]
      decide
    · exact isBare_of_mem_toDigits (by decide) (by decide) hc
  have hmark : Closed (depth, .quoted) "\\u".toList := rfl
  unfold unitText
  rw [String.toList_append]
  exact hmark.append hdigits

variable (depth : Nat)

theorem closed_charText (ascii : Bool) (c : Char) :
    Closed (depth, .quoted) (charText ascii c).toList := by
  unfold charText
  dsimp only
  split
  · rfl
  · rename_i hquote
    split
    · rfl
    · rename_i hbackslash
      split
      · rfl
      split
      · rfl
      split
      · rfl
      split
      · rfl
      split
      · rfl
      split
      · exact closed_unitText _ _
      split
      · rw [String.toList_append]
        exact (closed_unitText _ _).append (closed_unitText _ _)
      · -- what is written as it is neither ends the quotes nor hides the next character
        rw [beq_iff_eq] at hquote hbackslash
        apply closed_of_forall
        simp [advance, hquote, hbackslash]

theorem toList_foldl_append (f : Char → String) (cs : Chars) (start : String) :
    (cs.foldl (fun acc c => acc ++ f c) start).toList =
      start.toList ++ cs.flatMap fun c => (f c).toList := by
  induction cs generalizing start with
  | nil => simp
  | cons c rest ih => rw [List.foldl_cons, ih, String.toList_append, List.flatMap_cons,
      List.append_assoc]

theorem toList_quote (ascii : Bool) (s : String) :
    (quote ascii s).toList =
      '"' :: ((s.toList.flatMap fun c => (charText ascii c).toList) ++ ['"']) := by
  unfold quote
  rw [String.toList_append, String.toList_append, String.foldl_eq_foldl_toList, toList_foldl_append]
  rfl

theorem closed_quote (ascii : Bool) (s : String) :
    Closed (depth, .plain) (quote ascii s).toList := by
  have hinside : Closed (depth, .quoted) (s.toList.flatMap fun c => (charText ascii c).toList) :=
    closed_flatMap (closed_charText depth ascii) _
  unfold Closed
  rw [toList_quote, walk_cons]
  change walk (depth, .quoted) _ = _
  rw [hinside.walk_append]
  rfl

/-! ## All values -/

variable {ascii : Bool}

theorem closed_keyText {k : Value} {text : String} (h : keyText ascii k = .ok text)
    (depth : Nat) : Closed (depth, .plain) text.toList := by
  cases k with
  | str | none | bool | float =>
    cases h
    exact closed_quote _ _ _
  | int n =>
    obtain ⟨digits, -, h⟩ := eq_ok_of_bind h
    cases h
    exact closed_quote _ _ _
  | _ => cases h

theorem closed_comma : Closed (depth + 1, .plain) ", ".toList := by
  simp [Closed, walk, advance]

theorem closed_colon : Closed (depth, .plain) ": ".toList := Bare.closed (by decide) depth

theorem writeEntries_cons_cons (ascii : Bool) (e e' : Value × Value) (rest : Entries) :
    writeEntries ascii (e :: e' :: rest) =
      do return (← writeEntry ascii e) ++ ", " ++ (← writeEntries ascii (e' :: rest)) := rfl

mutual

theorem closed_write (v : Value) {text : String} (h : write ascii v = .ok text)
    (depth : Nat) : Closed (depth, .plain) text.toList := by
  cases v with
  | none => rw [write] at h; cases h; exact Bare.closed (by decide) depth
  | bool b =>
    cases h
    cases b <;> exact Bare.closed (by decide) depth
  | int n =>
    rw [write, intText] at h
    split at h
    · cases h; exact (bare_intText n).closed depth
    · cases h
  | float x => rw [write] at h; cases h; exact (bare_floatText x).closed depth
  | str s => rw [write] at h; cases h; exact closed_quote depth ascii s
  | list items | tuple items =>
    obtain ⟨inside, hinside, h⟩ := eq_ok_of_bind h
    cases h
    rw [String.toList_append, String.toList_append]
    exact closed_brackets (.inl rfl) (.inl rfl) (closed_writeItems items hinside depth)
  | dict entries =>
    obtain ⟨inside, hinside, h⟩ := eq_ok_of_bind h
    cases h
    rw [String.toList_append, String.toList_append]
    exact closed_brackets (.inr rfl) (.inr rfl) (closed_writeEntries entries hinside depth)
  | range a b c => simp [write] at h
  | object name shown => simp [write] at h

theorem closed_writeItems (items : List Value) {text : String}
    (h : writeItems ascii items = .ok text) (depth : Nat) :
    Closed (depth + 1, .plain) text.toList := by
  cases items with
  | nil => rw [writeItems] at h; cases h; exact closed_nil _
  | cons v rest =>
    cases rest with
    | nil => rw [writeItems] at h; exact closed_write v h (depth + 1)
    | cons w rest =>
      obtain ⟨first, hfst, h⟩ := eq_ok_of_bind h
      obtain ⟨others, hothers, h⟩ := eq_ok_of_bind h
      cases h
      rw [String.toList_append, String.toList_append]
      exact ((closed_write v hfst _).append (closed_comma depth)).append
        (closed_writeItems (w :: rest) hothers depth)

theorem closed_writeEntries (entries : Entries) {text : String}
    (h : writeEntries ascii entries = .ok text) (depth : Nat) :
    Closed (depth + 1, .plain) text.toList := by
  cases entries with
  | nil => rw [writeEntries] at h; cases h; exact closed_nil _
  | cons e rest =>
    cases rest with
    | nil => rw [writeEntries] at h; exact closed_writeEntry e h (depth + 1)
    | cons e' rest =>
      obtain ⟨first, hfst, h⟩ := eq_ok_of_bind h
      obtain ⟨others, hothers, h⟩ := eq_ok_of_bind h
      cases h
      rw [String.toList_append, String.toList_append]
      exact ((closed_writeEntry e hfst _).append (closed_comma depth)).append
        (closed_writeEntries (e' :: rest) hothers depth)

theorem closed_writeEntry (e : Value × Value) {text : String}
    (h : writeEntry ascii e = .ok text) (depth : Nat) : Closed (depth, .plain) text.toList := by
  obtain ⟨k, v⟩ := e
  obtain ⟨key, hkey, h⟩ := eq_ok_of_bind h
  obtain ⟨value, hval, h⟩ := eq_ok_of_bind h
  cases h
  rw [String.toList_append, String.toList_append]
  exact ((closed_keyText hkey depth).append (closed_colon depth)).append (closed_write v hval depth)

end

/-! ## What a text determines -/

/-- The characters cannot be read as the rest of a value: they begin with a comma or with a closing
bracket, if there are any. -/
def Ends (rest : Chars) : Prop :=
  ∀ c ∈ rest.head?, c = ',' ∨ c = ']' ∨ c = '\x7d'

theorem Ends.advance {c : Char} {rest : Chars} (h : Ends (c :: rest)) :
    advance (0, .plain) c = none := by
  rcases h c rfl with rfl | rfl | rfl <;> simp [Json.advance]

theorem eq_nil_of_closed {cs more rest : Chars} (h : Closed (0, .plain) (cs ++ more))
    (hcs : Closed (0, .plain) cs) (hends : Ends (more ++ rest)) : more = [] := by
  cases more with
  | nil => rfl
  | cons c more =>
    unfold Closed at h
    rw [hcs.walk_append, walk_cons, Ends.advance hends] at h
    cases h

variable {v w : Value}

theorem write_append_cancel {ascii : Bool} {a b : String} {r s : Chars}
    (hv : write ascii v = .ok a) (hw : write ascii w = .ok b) (hr : Ends r) (hs : Ends s)
    (heq : a.toList ++ r = b.toList ++ s) : a = b ∧ r = s := by
  have ha := closed_write v hv 0
  have hb := closed_write w hw 0
  -- one text begins with the other, and what it has in addition would be the end of a value
  rcases List.append_eq_append_iff.mp heq with ⟨more, hmore, hrest⟩ | ⟨more, hmore, hrest⟩
  · rw [hmore] at hb
    rw [hrest] at hr
    obtain rfl := eq_nil_of_closed hb ha hr
    rw [List.append_nil] at hmore
    exact ⟨String.toList_injective hmore.symm, hrest⟩
  · rw [hmore] at ha
    rw [hrest] at hs
    obtain rfl := eq_nil_of_closed ha hb hs
    rw [List.append_nil] at hmore
    exact ⟨String.toList_injective hmore, hrest.symm⟩

def SameText (v w : Value) : Prop := ∃ text, write true v = .ok text ∧ write true w = .ok text

theorem SameText.write_eq (h : SameText v w) : write true v = write true w := by
  obtain ⟨text, hv, hw⟩ := h
  exact hv.trans hw.symm

theorem writeEntries_congr {entries entries' : Entries}
    (h : List.Forall₂ (fun e e' => writeEntry true e = writeEntry true e') entries entries') :
    writeEntries true entries = writeEntries true entries' := by
  induction h with
  | nil => rfl
  | cons hfst hrest ih =>
    cases hrest with
    | nil => exact hfst
    | cons hnext hothers => rw [writeEntries_cons_cons, writeEntries_cons_cons, hfst, ih]

theorem write_record_congr {fields fields' : Record}
    (h : List.Forall₂ (fun f f' => f.1 = f'.1 ∧ write true f.2 = write true f'.2) fields fields') :
    write true (record fields) = write true (record fields') := by
  have hent : List.Forall₂ (fun e e' => writeEntry true e = writeEntry true e')
      (fields.map fun f => (Value.str f.1, f.2)) (fields'.map fun f => (Value.str f.1, f.2)) := by
    rw [List.forall₂_map_left_iff, List.forall₂_map_right_iff]
    refine h.imp fun f f' hf => ?_
    rw [writeEntry, writeEntry, hf.1, hf.2]
  unfold record
  rw [write, write, writeEntries_congr hent]

def SameFields (fields fields' : Record) : Prop :=
  ∃ a b r s, writeEntries true (fields.map fun f => (.str f.1, f.2)) = .ok a ∧
    writeEntries true (fields'.map fun f => (.str f.1, f.2)) = .ok b ∧
    Ends r ∧ Ends s ∧ a.toList ++ r = b.toList ++ s

theorem SameText.fields {fields fields' : Record}
    (h : SameText (record fields) (record fields')) : SameFields fields fields' := by
  obtain ⟨text, hv, hw⟩ := h
  have hends : Ends ['\x7d'] := by simp [Ends]
  unfold record at hv hw
  obtain ⟨a, ha, hv⟩ := eq_ok_of_bind hv
  obtain ⟨b, hb, hw⟩ := eq_ok_of_bind hw
  have heq := congrArg String.toList (Except.ok.inj (hv.trans hw.symm))
  simp only [String.toList_append, List.append_assoc] at heq
  exact ⟨a, b, _, _, ha, hb, hends, hends, List.append_cancel_left heq⟩

theorem writeEntries_cons_eq {key : String} {v : Value} {fields : Entries}
    {text : String} (h : writeEntries true ((.str key, v) :: fields) = .ok text) :
    ∃ value rest, write true v = .ok value ∧
      text.toList = (quote true key ++ ": ").toList ++ value.toList ++ rest ∧
      (fields = [] ∧ rest = [] ∨
        ∃ others, writeEntries true fields = .ok others ∧ rest = ", ".toList ++ others.toList) := by
  have hfst : ∀ {first : String}, writeEntry true (.str key, v) = .ok first →
      ∃ value, write true v = .ok value ∧
        first.toList = (quote true key ++ ": ").toList ++ value.toList := by
    intro first hfst
    obtain ⟨name, hname, hfst⟩ := eq_ok_of_bind hfst
    obtain ⟨value, hval, hfst⟩ := eq_ok_of_bind hfst
    cases hname
    cases hfst
    exact ⟨value, hval, String.toList_append⟩
  cases fields with
  | nil =>
    obtain ⟨value, hval, htext⟩ := hfst h
    exact ⟨value, [], hval, htext.trans (List.append_nil _).symm, .inl ⟨rfl, rfl⟩⟩
  | cons e rest =>
    obtain ⟨first, hentry, h⟩ := eq_ok_of_bind h
    obtain ⟨others, hothers, h⟩ := eq_ok_of_bind h
    cases h
    obtain ⟨value, hval, htext⟩ := hfst hentry
    refine ⟨value, _, hval, ?_, .inr ⟨others, hothers, rfl⟩⟩
    rw [String.toList_append, String.toList_append, htext, List.append_assoc]

theorem SameFields.cons {key : String} {fields fields' : Record}
    (h : SameFields ((key, v) :: fields) ((key, w) :: fields')) :
    SameText v w ∧ (fields ≠ [] → fields' ≠ [] → SameFields fields fields') := by
  obtain ⟨a, b, r, s, ha, hb, hr, hs, heq⟩ := h
  -- behind the first value there is a comma or the end of all fields
  have hends : ∀ (fields : Entries) (rest tail : Chars),
      (fields = [] ∧ rest = [] ∨
        ∃ others, writeEntries true fields = .ok others ∧ rest = ", ".toList ++ others.toList) →
      Ends tail → Ends (rest ++ tail) := by
    intro fields rest tail hrest htail
    rcases hrest with ⟨-, rfl⟩ | ⟨others, -, rfl⟩
    · exact htail
    · intro c hc
      obtain rfl := Option.mem_some_iff.mp hc
      exact .inl rfl
  obtain ⟨value, rest, hval, htext, hrest⟩ := writeEntries_cons_eq ha
  obtain ⟨value', rest', hval', htext', hrest'⟩ := writeEntries_cons_eq hb
  simp only [htext, htext', append_assoc] at heq
  obtain ⟨rfl, htail⟩ := write_append_cancel hval hval' (hends _ _ _ hrest hr)
    (hends _ _ _ hrest' hs) (append_cancel_left heq)
  refine ⟨⟨value, hval, hval'⟩, fun hne hne' => ?_⟩
  rcases hrest with ⟨hnil, -⟩ | ⟨others, hothers, rfl⟩
  · exact absurd (map_eq_nil_iff.mp hnil) hne
  rcases hrest' with ⟨hnil, -⟩ | ⟨others', hothers', rfl⟩
  · exact absurd (map_eq_nil_iff.mp hnil) hne'
  simp only [append_assoc] at htail
  exact ⟨others, others', r, s, hothers, hothers', hr, hs, append_cancel_left htail⟩

end Rover.Json
