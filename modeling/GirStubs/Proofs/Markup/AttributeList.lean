import GirStubs.Markup.Tag
import GirStubs.Proofs.Outcome
import Mathlib.Data.List.Forall2

/-!
# The grammar of attribute lists

`AttributeList` says what an attribute list is, without the machine that reads it: any
number of keys with quoted values, in blanks. The machine accepts a text exactly when it
is an attribute list with distinct keys whose kept values hold no bad reference, and it
keeps the entries in order, those of namespace declarations left out
(`AttributeReader.run_eq_ok_iff`, `tagAttributes_eq_ok_iff`).
-/

namespace GirStubs.Markup

open Text

/-- Nothing but blanks. -/
def AllBlank (text : List Char) : Prop := ∀ c ∈ text, isTagBlank c

/-- A character that may stand in a key behind its first one. -/
def isKeyChar (c : Char) : Bool := !isTagBlank c && c ≠ '='

/-- A key is not empty, and its first character may be an equals sign. -/
def IsKey (key : List Char) : Prop :=
  ∃ first more, key = first :: more ∧ isTagBlank first = false ∧ ∀ c ∈ more, isKeyChar c

/-- A text that writes pairs of keys and raw values. -/
inductive AttributeList : List Char → List (List Char × List Char) → Prop where
  | nil {blanks : List Char} (hblanks : AllBlank blanks) : AttributeList blanks []
  | cons {before key gap gap' value rest : List Char} {quote : Char}
      {pairs : List (List Char × List Char)} (hbefore : AllBlank before) (hkey : IsKey key)
      (hgap : AllBlank gap) (hgap' : AllBlank gap') (hquote : quote = '"' ∨ quote = '\'')
      (hvalue : quote ∉ value) (hrest : AttributeList rest pairs) :
      AttributeList (before ++ (key ++ (gap ++ '=' :: (gap' ++ quote :: (value ++ quote :: rest)))))
        ((key, value) :: pairs)

/-- The entry that a pair stands for. -/
def EntryOf (pair : List Char × List Char) (entry : String × String) : Prop :=
  entry.1 = String.ofList pair.1 ∧ ∃ text, unescape pair.2 = .ok text ∧ entry.2 = String.ofList text

/-- The entries that are kept of some pairs: all but those that declare namespaces. -/
def EntriesOf (pairs : List (List Char × List Char)) (entries : List (String × String)) : Prop :=
  List.Forall₂ EntryOf (pairs.filter fun pair => !isNamespaceKey pair.1) entries

theorem setEntry_of_not_mem {key value : String} {entries : List (String × String)}
    (h : key ∉ entries.map Prod.fst) : setEntry key value entries = entries ++ [(key, value)] := by
  induction entries with
  | nil => rfl
  | cons entry rest ih =>
    rw [List.map_cons, List.mem_cons, not_or] at h
    rw [setEntry, if_neg (Ne.symm h.1), ih h.2, List.cons_append]

theorem entriesOf_nil_iff {entries : List (String × String)} :
    EntriesOf [] entries ↔ entries = [] := List.forall₂_nil_left_iff

theorem entriesOf_singleton_iff {pair : List Char × List Char} {kept : List (String × String)} :
    EntriesOf [pair] kept ↔ (isNamespaceKey pair.1 ∧ kept = []) ∨
      (isNamespaceKey pair.1 = false ∧ ∃ text, unescape pair.2 = .ok text ∧
        kept = [(String.ofList pair.1, String.ofList text)]) := by
  unfold EntriesOf
  cases hname : isNamespaceKey pair.1 with
  | true => simp [hname]
  | false =>
    simp only [List.filter_cons, hname, Bool.not_false, if_true, List.filter_nil,
      List.forall₂_cons_left_iff, List.forall₂_nil_left_iff, Bool.false_eq_true, false_and,
      false_or, true_and]
    constructor
    · rintro ⟨⟨key, value⟩, rest, ⟨hkey, text, htext, hvalue⟩, rfl, rfl⟩
      exact ⟨text, htext, by rw [← hkey, ← hvalue]⟩
    · rintro ⟨text, htext, rfl⟩
      exact ⟨_, [], ⟨rfl, text, htext, rfl⟩, rfl, rfl⟩

theorem entriesOf_cons_iff {pair : List Char × List Char} {pairs : List (List Char × List Char)}
    {entries : List (String × String)} :
    EntriesOf (pair :: pairs) entries ↔
      ∃ kept more, entries = kept ++ more ∧ EntriesOf [pair] kept ∧ EntriesOf pairs more := by
  unfold EntriesOf
  rw [← List.singleton_append, List.filter_append]
  constructor
  · intro h
    have htake := List.forall₂_take_append entries _ _ h.flip
    have hdrop := List.forall₂_drop_append entries _ _ h.flip
    exact ⟨_, _, (List.take_append_drop _ entries).symm, htake.flip, hdrop.flip⟩
  · rintro ⟨kept, more, rfl, hkept, hmore⟩
    exact List.rel_append hkept hmore

namespace AttributeReader

variable {r next : AttributeReader} {attributes : Attributes}

/-! ## One step -/

theorem closeKey_eq_ok_iff {start : Nat} {key : List Char} :
    r.closeKey start key = .ok next ↔ key ∉ r.keys.map Prod.fst ∧
      next = { r with state := .beforeValue key, keys := (key, start) :: r.keys } := by
  have hnew : r.keys.lookup key = none ↔ key ∉ r.keys.map Prod.fst := by
    simp only [List.lookup_eq_none_iff, List.mem_map, not_exists, not_and, bne_iff_ne]
    constructor <;> exact fun h entry hmem heq => h entry hmem heq.symm
  unfold closeKey
  cases hlookup : r.keys.lookup key with
  | some previous =>
    have hold : ¬ key ∉ r.keys.map Prod.fst := by
      rw [← hnew, hlookup]
      exact Option.some_ne_none previous
    simp only [reduceCtorEq, false_iff, not_and]
    exact fun hfresh => absurd hfresh hold
  | none =>
    have hfresh := hnew.mp hlookup
    simp [hfresh, eq_comm]

theorem closeValue_eq_ok_iff {key value : List Char} :
    r.closeValue key value = .ok next ↔
      (isNamespaceKey key ∧ next = { r with state := .between }) ∨
      (isNamespaceKey key = false ∧ ∃ text, unescape value = .ok text ∧
        next = { r with
          state := .between
          attributes := r.attributes.set (String.ofList key) (String.ofList text) }) := by
  unfold closeValue
  cases hkey : isNamespaceKey key with
  | true => simp [eq_comm]
  | false =>
    cases htext : unescape value with
    | error fault => simp
    | ok text => simp [eq_comm]

theorem closeKey_state (state : AttributeState) (start : Nat) (key : List Char) :
    { r with state }.closeKey start key = r.closeKey start key := rfl

theorem closeValue_state (state : AttributeState) (key value : List Char) :
    { r with state }.closeValue key value = r.closeValue key value := rfl

/-! ## Reading on -/

theorem run_cons (position : Nat) (c : Char) (rest : List Char) :
    r.run position (c :: rest) =
      (r.step position c >>= fun next => next.run (position + c.utf8Size) rest) := by
  rw [run]
  cases r.step position c <;> rfl

/-- A run through characters on each of which the reader stays in one family of states. -/
theorem run_append {g : List Char → AttributeReader} {text : List Char}
    (h : ∀ c ∈ text, ∀ seen position, (g seen).step position c = .ok (g (c :: seen)))
    (seen : List Char) (position : Nat) (rest : List Char) :
    (g seen).run position (text ++ rest) =
      (g (text.reverse ++ seen)).run (position + byteSize text) rest := by
  induction text generalizing seen position with
  | nil => rfl
  | cons c text ih =>
    rw [List.cons_append, run, h c List.mem_cons_self]
    simp only [ih (fun d hd => h d (List.mem_cons_of_mem _ hd)), List.reverse_cons,
      List.append_assoc, List.singleton_append, byteSize_cons, Nat.add_assoc]

theorem run_between {blanks : List Char} (h : AllBlank blanks) (position : Nat) (rest : List Char) :
    { r with state := .between }.run position (blanks ++ rest) =
      { r with state := .between }.run (position + byteSize blanks) rest := by
  refine run_append (g := fun _ => { r with state := .between }) (fun c hc _ _ => ?_) [] _ _
  simp [step, h c hc]

theorem run_key {more : List Char} (h : ∀ c ∈ more, isKeyChar c) (start position : Nat)
    (seen rest : List Char) :
    { r with state := .key start seen }.run position (more ++ rest) =
      { r with state := .key start (more.reverse ++ seen) }.run (position + byteSize more)
        rest := by
  have hstay : ∀ c ∈ more, ∀ (seen : List Char) (position : Nat),
      { r with state := .key start seen }.step position c =
        .ok { r with state := .key start (c :: seen) } := by
    intro c hc seen position
    have hchar : isTagBlank c = false ∧ c ≠ '=' := by simpa [isKeyChar] using h c hc
    simp [step, hchar.1, hchar.2]
  exact run_append (g := fun seen => { r with state := .key start seen }) hstay seen position rest

theorem run_gap {gap : List Char} (h : AllBlank gap) (start position : Nat)
    (seen rest : List Char) :
    ∃ position', { r with state := .key start seen }.run position (gap ++ '=' :: rest) =
      (r.closeKey start seen.reverse >>= fun next => next.run position' rest) := by
  cases gap with
  | nil =>
    refine ⟨position + '='.utf8Size, ?_⟩
    rw [List.nil_append, run_cons]
    simp only [step, if_pos, closeKey_state]
  | cons b gap =>
    have hb := h b List.mem_cons_self
    have hgap : AllBlank gap := fun c hc => h c (List.mem_cons_of_mem _ hc)
    have hne : b ≠ '=' := by
      rintro rfl
      cases hb
    have hstay : ∀ c ∈ gap, ∀ (_ : List Char) (position : Nat),
        { r with state := .afterKey start seen.reverse }.step position c =
          .ok { r with state := .afterKey start seen.reverse } := by
      intro c hc _ position
      have hc := hgap c hc
      have hne : c ≠ '=' := by
        rintro rfl
        cases hc
      simp [step, hc, hne]
    have hloop := run_append (g := fun _ => { r with state := .afterKey start seen.reverse }) hstay
      [] (position + b.utf8Size) ('=' :: rest)
    refine ⟨position + b.utf8Size + byteSize gap + '='.utf8Size, ?_⟩
    have hb : { r with state := .key start seen }.step position b =
        .ok { r with state := .afterKey start seen.reverse } := by
      simp [step, hne, hb]
    rw [List.cons_append, run_cons, hb]
    refine hloop.trans ?_
    rw [run_cons]
    simp only [step, if_pos, closeKey_state]

theorem run_quote {gap : List Char} {quote : Char} (h : AllBlank gap)
    (hquote : quote = '"' ∨ quote = '\'') (key : List Char) (position : Nat) (rest : List Char) :
    { r with state := .beforeValue key }.run position (gap ++ quote :: rest) =
      { r with state := .value key quote [] }.run (position + byteSize gap + quote.utf8Size)
        rest := by
  have hstay : ∀ c ∈ gap, ∀ (_ : List Char) (position : Nat),
      { r with state := .beforeValue key }.step position c =
        .ok { r with state := .beforeValue key } := by
    intro c hc _ position
    simp [step, h c hc]
  have hloop := run_append (g := fun _ => { r with state := .beforeValue key }) hstay [] position
    (quote :: rest)
  have hblank : isTagBlank quote = false := by rcases hquote with rfl | rfl <;> rfl
  rw [hloop, run]
  simp only [step, hblank, Bool.false_eq_true, if_false, if_pos hquote]

theorem run_value {value : List Char} {quote : Char} (h : quote ∉ value) (key : List Char)
    (position : Nat) (rest : List Char) :
    { r with state := .value key quote [] }.run position (value ++ quote :: rest) =
      (r.closeValue key value >>= fun next =>
        next.run (position + byteSize value + quote.utf8Size) rest) := by
  have hstay : ∀ c ∈ value, ∀ (seen : List Char) (position : Nat),
      { r with state := .value key quote seen }.step position c =
        .ok { r with state := .value key quote (c :: seen) } := by
    intro c hc seen position
    have hne : c ≠ quote := fun heq => h (heq ▸ hc)
    simp [step, hne]
  have hloop := run_append (g := fun seen => { r with state := .value key quote seen }) hstay []
    position (quote :: rest)
  rw [hloop, run_cons]
  simp only [step, if_pos, List.append_nil, List.reverse_reverse, closeValue_state]

theorem run_quoted {gap value : List Char} {quote : Char} (h : AllBlank gap)
    (hquote : quote = '"' ∨ quote = '\'') (hvalue : quote ∉ value) (key : List Char)
    (position : Nat) (rest : List Char) :
    { r with state := .beforeValue key }.run position (gap ++ quote :: (value ++ quote :: rest)) =
      (r.closeValue key value >>= fun next =>
        next.run (position + byteSize gap + quote.utf8Size + byteSize value + quote.utf8Size)
          rest) := by
  rw [run_quote h hquote, run_value hvalue]

/-! ## Reading back -/

theorem run_cons_eq_ok {position : Nat} {c : Char} {rest : List Char}
    (h : r.run position (c :: rest) = .ok attributes) :
    ∃ next, r.step position c = .ok next ∧
      next.run (position + c.utf8Size) rest = .ok attributes := by
  rw [run_cons] at h
  exact bind_eq_ok_iff.mp h

theorem between_split {position : Nat} {text : List Char}
    (h : { r with state := .between }.run position text = .ok attributes) :
    (AllBlank text ∧ attributes = r.attributes) ∨
    ∃ before first rest start position', text = before ++ first :: rest ∧ AllBlank before ∧
      isTagBlank first = false ∧
      { r with state := .key start [first] }.run position' rest = .ok attributes := by
  induction text generalizing position with
  | nil =>
    simp only [run, finish, Except.ok.injEq] at h
    exact Or.inl ⟨List.forall_mem_nil _, h.symm⟩
  | cons c text ih =>
    obtain ⟨next, hstep, hrun⟩ := run_cons_eq_ok h
    simp only [step, Except.ok.injEq] at hstep
    subst hstep
    split at hrun
    · next hc =>
      rcases ih hrun with ⟨hblank, heq⟩ | ⟨before, first, rest, start, position', rfl, hblank,
        hrest⟩
      · exact Or.inl ⟨List.forall_mem_cons.mpr ⟨hc, hblank⟩, heq⟩
      · exact Or.inr ⟨c :: before, first, rest, start, position', rfl,
          List.forall_mem_cons.mpr ⟨hc, hblank⟩, hrest⟩
    · next hc =>
      exact Or.inr ⟨[], c, text, position, _, rfl, List.forall_mem_nil _,
        by simpa using hc, hrun⟩

theorem afterKey_split {start position : Nat} {key text : List Char}
    (h : { r with state := .afterKey start key }.run position text = .ok attributes) :
    ∃ gap rest next position', text = gap ++ '=' :: rest ∧ AllBlank gap ∧
      r.closeKey start key = .ok next ∧ next.run position' rest = .ok attributes := by
  induction text generalizing position with
  | nil => simp [run, finish] at h
  | cons c text ih =>
    obtain ⟨next, hstep, hrun⟩ := run_cons_eq_ok h
    simp only [step] at hstep
    split at hstep
    · next hc =>
      exact ⟨[], text, next, _, by rw [hc]; rfl, List.forall_mem_nil _, hstep, hrun⟩
    · split at hstep
      · next hc =>
        simp only [Except.ok.injEq] at hstep
        subst hstep
        obtain ⟨gap, rest, next, position', rfl, hgap, hclose⟩ := ih hrun
        exact ⟨c :: gap, rest, next, position', rfl, List.forall_mem_cons.mpr ⟨hc, hgap⟩, hclose⟩
      · cases hstep

theorem key_split {start position : Nat} {seen text : List Char}
    (h : { r with state := .key start seen }.run position text = .ok attributes) :
    ∃ more gap rest next position', text = more ++ (gap ++ '=' :: rest) ∧
      (∀ c ∈ more, isKeyChar c) ∧ AllBlank gap ∧
      r.closeKey start (seen.reverse ++ more) = .ok next ∧ next.run position' rest = .ok attributes := by
  induction text generalizing seen position with
  | nil => simp [run, finish] at h
  | cons c text ih =>
    obtain ⟨next, hstep, hrun⟩ := run_cons_eq_ok h
    simp only [step] at hstep
    split at hstep
    · next hc =>
      refine ⟨[], [], text, next, _, by rw [hc]; rfl, List.forall_mem_nil _,
        List.forall_mem_nil _, ?_, hrun⟩
      rwa [List.append_nil]
    · next hequals =>
      split at hstep
      · next hc =>
        simp only [Except.ok.injEq] at hstep
        subst hstep
        obtain ⟨gap, rest, next, position', rfl, hgap, hclose, hnext⟩ := afterKey_split hrun
        refine ⟨[], c :: gap, rest, next, position', rfl, List.forall_mem_nil _,
          List.forall_mem_cons.mpr ⟨hc, hgap⟩, ?_, hnext⟩
        rwa [List.append_nil]
      · next hc =>
        simp only [Except.ok.injEq] at hstep
        subst hstep
        obtain ⟨more, gap, rest, next, position', rfl, hmore, hgap, hclose, hnext⟩ := ih hrun
        have hchar : isKeyChar c := by simp [isKeyChar, hc, hequals]
        refine ⟨c :: more, gap, rest, next, position', rfl,
          List.forall_mem_cons.mpr ⟨hchar, hmore⟩, hgap, ?_, hnext⟩
        rwa [List.reverse_cons, List.append_assoc, List.singleton_append] at hclose

theorem beforeValue_split {position : Nat} {key text : List Char}
    (h : { r with state := .beforeValue key }.run position text = .ok attributes) :
    ∃ gap quote rest position', text = gap ++ quote :: rest ∧ AllBlank gap ∧
      (quote = '"' ∨ quote = '\'') ∧
      { r with state := .value key quote [] }.run position' rest = .ok attributes := by
  induction text generalizing position with
  | nil => simp [run, finish] at h
  | cons c text ih =>
    obtain ⟨next, hstep, hrun⟩ := run_cons_eq_ok h
    simp only [step] at hstep
    split at hstep
    · next hc =>
      simp only [Except.ok.injEq] at hstep
      subst hstep
      obtain ⟨gap, quote, rest, position', rfl, hgap, hquote⟩ := ih hrun
      exact ⟨c :: gap, quote, rest, position', rfl, List.forall_mem_cons.mpr ⟨hc, hgap⟩, hquote⟩
    · split at hstep
      · next hquote =>
        simp only [Except.ok.injEq] at hstep
        subst hstep
        exact ⟨[], c, text, _, rfl, List.forall_mem_nil _, hquote, hrun⟩
      · cases hstep

theorem value_split {position : Nat} {key seen text : List Char} {quote : Char}
    (h : { r with state := .value key quote seen }.run position text = .ok attributes) :
    ∃ value rest next position', text = value ++ quote :: rest ∧ quote ∉ value ∧
      r.closeValue key (seen.reverse ++ value) = .ok next ∧
      next.run position' rest = .ok attributes := by
  induction text generalizing seen position with
  | nil => simp [run, finish] at h
  | cons c text ih =>
    obtain ⟨next, hstep, hrun⟩ := run_cons_eq_ok h
    simp only [step] at hstep
    split at hstep
    · next hc =>
      refine ⟨[], text, next, _, by rw [hc]; rfl, List.not_mem_nil, ?_, hrun⟩
      rw [List.append_nil]
      exact hstep
    · next hc =>
      simp only [Except.ok.injEq] at hstep
      subst hstep
      obtain ⟨value, rest, next, position', rfl, hvalue, hclose, hnext⟩ := ih hrun
      refine ⟨c :: value, rest, next, position', rfl, ?_, ?_, hnext⟩
      · rw [List.mem_cons, not_or]
        exact ⟨Ne.symm hc, hvalue⟩
      · rwa [List.reverse_cons, List.append_assoc, List.singleton_append] at hclose

/-! ## One pair after another -/

/-- Every entry kept so far stands under one of the keys so far. -/
def Consistent (r : AttributeReader) : Prop :=
  ∀ entry ∈ r.attributes.entries, entry.1.toList ∈ r.keys.map Prod.fst

theorem Consistent.entries_set {key : List Char} (h : r.Consistent)
    (hfresh : key ∉ r.keys.map Prod.fst) (value : String) :
    (r.attributes.set (String.ofList key) value).entries =
      r.attributes.entries ++ [(String.ofList key, value)] := by
  rw [Attributes.entries_set]
  refine setEntry_of_not_mem fun hmem => ?_
  obtain ⟨entry, hentry, heq⟩ := List.mem_map.mp hmem
  have hold := h entry hentry
  rw [heq, String.toList_ofList] at hold
  exact hfresh hold

/-- What a pair makes of a reader: its key is new, and its entry, if any, goes to the end. -/
structure Takes (r : AttributeReader) (pair : List Char × List Char)
    (kept : List (String × String)) (next : AttributeReader) : Prop where
  fresh : pair.1 ∉ r.keys.map Prod.fst
  state_eq : next.state = .between
  keys_eq : next.keys.map Prod.fst = pair.1 :: r.keys.map Prod.fst
  entriesOf : EntriesOf [pair] kept
  entries_eq : next.attributes.entries = r.attributes.entries ++ kept

theorem Takes.consistent {pair : List Char × List Char} {kept : List (String × String)}
    (h : r.Consistent) (ht : r.Takes pair kept next) : next.Consistent := by
  intro entry hmem
  rw [ht.keys_eq, List.mem_cons]
  rw [ht.entries_eq, List.mem_append] at hmem
  rcases hmem with hmem | hmem
  · exact Or.inr (h entry hmem)
  · left
    rcases entriesOf_singleton_iff.mp ht.entriesOf with ⟨_, rfl⟩ | ⟨_, text, _, rfl⟩
    · exact absurd hmem List.not_mem_nil
    · rw [List.mem_singleton.mp hmem, String.toList_ofList]

theorem takes_of_close {start : Nat} {key value : List Char} {middle : AttributeReader}
    (h : r.Consistent) (hkey : r.closeKey start key = .ok middle)
    (hvalue : middle.closeValue key value = .ok next) : ∃ kept, r.Takes (key, value) kept next := by
  obtain ⟨hfresh, rfl⟩ := closeKey_eq_ok_iff.mp hkey
  rcases closeValue_eq_ok_iff.mp hvalue with ⟨hname, rfl⟩ | ⟨hname, text, htext, rfl⟩
  · have hentries : EntriesOf [(key, value)] [] := entriesOf_singleton_iff.mpr (Or.inl ⟨hname, rfl⟩)
    exact ⟨[], hfresh, rfl, rfl, hentries, (List.append_nil _).symm⟩
  · have hentries : EntriesOf [(key, value)] [(String.ofList key, String.ofList text)] :=
      entriesOf_singleton_iff.mpr (Or.inr ⟨hname, text, htext, rfl⟩)
    exact ⟨_, hfresh, rfl, rfl, hentries, h.entries_set hfresh _⟩

theorem exists_close (h : r.Consistent) (start : Nat) {key value : List Char}
    {kept : List (String × String)} (hfresh : key ∉ r.keys.map Prod.fst)
    (hentries : EntriesOf [(key, value)] kept) :
    ∃ middle next, r.closeKey start key = .ok middle ∧ middle.closeValue key value = .ok next ∧
      r.Takes (key, value) kept next := by
  have hkey : r.closeKey start key = .ok _ := closeKey_eq_ok_iff.mpr ⟨hfresh, rfl⟩
  rcases entriesOf_singleton_iff.mp hentries with ⟨hname, rfl⟩ | ⟨hname, text, htext, rfl⟩
  · exact ⟨_, _, hkey, closeValue_eq_ok_iff.mpr (Or.inl ⟨hname, rfl⟩),
      hfresh, rfl, rfl, hentries, (List.append_nil _).symm⟩
  · exact ⟨_, _, hkey, closeValue_eq_ok_iff.mpr (Or.inr ⟨hname, text, htext, rfl⟩),
      hfresh, rfl, rfl, hentries, h.entries_set hfresh _⟩

/-! ## The whole list -/

theorem run_pair {before key gap gap' value rest : List Char} {quote : Char}
    {kept : List (String × String)} (h : r.Consistent) (hbefore : AllBlank before)
    (hkey : IsKey key) (hgap : AllBlank gap) (hgap' : AllBlank gap') (hquote : quote = '"' ∨ quote = '\'')
    (hvalue : quote ∉ value) (hfresh : key ∉ r.keys.map Prod.fst)
    (hentries : EntriesOf [(key, value)] kept) (position : Nat) :
    ∃ next position', r.Takes (key, value) kept next ∧
      { r with state := .between }.run position
        (before ++ (key ++ (gap ++ '=' :: (gap' ++ quote :: (value ++ quote :: rest))))) =
          next.run position' rest := by
  obtain ⟨first, more, rfl, hfirst, hmore⟩ := hkey
  obtain ⟨middle, next, hclose, hread, htakes⟩ :=
    exists_close h (position + byteSize before) hfresh hentries
  obtain ⟨position', hequals⟩ := run_gap (r := r) hgap (position + byteSize before)
    (position + byteSize before + first.utf8Size + byteSize more) (more.reverse ++ [first])
    (gap' ++ quote :: (value ++ quote :: rest))
  refine ⟨next, position' + byteSize gap' + quote.utf8Size + byteSize value + quote.utf8Size,
    htakes, ?_⟩
  obtain ⟨_, rfl⟩ := closeKey_eq_ok_iff.mp hclose
  let closed : AttributeReader :=
    { r with keys := (first :: more, position + byteSize before) :: r.keys }
  have hkept : closed.closeValue (first :: more) value = .ok next := hread
  rw [run_between hbefore, List.cons_append, run]
  simp only [step, hfirst, Bool.false_eq_true, if_false]
  rw [run_key hmore, hequals, List.reverse_append, List.reverse_reverse, List.reverse_singleton,
    List.singleton_append, hclose]
  refine (run_quoted (r := closed) hgap' hquote hvalue ..).trans ?_
  rw [hkept]
  rfl

/-- One pair, read back: the text starts with it, and its value is followed by the rest. -/
theorem pair_split {position start : Nat} {first : Char} {text : List Char} (h : r.Consistent)
    (hfirst : isTagBlank first = false)
    (hrun : { r with state := .key start [first] }.run position text = .ok attributes) :
    ∃ more gap gap' quote value rest kept next position',
      text = more ++ (gap ++ '=' :: (gap' ++ quote :: (value ++ quote :: rest))) ∧
      IsKey (first :: more) ∧ AllBlank gap ∧ AllBlank gap' ∧ (quote = '"' ∨ quote = '\'') ∧
      quote ∉ value ∧ r.Takes (first :: more, value) kept next ∧
      next.run position' rest = .ok attributes := by
  obtain ⟨more, gap, rest, middle, position', rfl, hmore, hgap, hclose, hrun⟩ := key_split hrun
  obtain ⟨_, rfl⟩ := closeKey_eq_ok_iff.mp hclose
  obtain ⟨gap', quote, rest, position', rfl, hgap', hquote, hrun⟩ :=
    beforeValue_split (r := { r with keys := (first :: more, start) :: r.keys }) hrun
  obtain ⟨value, rest, next, position', rfl, hvalue, hread, hrun⟩ :=
    value_split (r := { r with keys := (first :: more, start) :: r.keys }) hrun
  obtain ⟨kept, htakes⟩ := takes_of_close h hclose hread
  exact ⟨more, gap, gap', quote, value, rest, kept, next, position', rfl,
    ⟨first, more, rfl, hfirst, hmore⟩, hgap, hgap', hquote, hvalue, htakes, hrun⟩

theorem run_eq_ok_iff {text : List Char} (h : r.Consistent) (position : Nat) :
    { r with state := .between }.run position text = .ok attributes ↔
      ∃ pairs, AttributeList text pairs ∧ (pairs.map Prod.fst).Nodup ∧
        (∀ key ∈ pairs.map Prod.fst, key ∉ r.keys.map Prod.fst) ∧
        ∃ kept, EntriesOf pairs kept ∧ attributes.entries = r.attributes.entries ++ kept := by
  constructor
  · intro hrun
    -- One pair takes many characters, so the induction is on the length of what is left.
    induction hn : text.length using Nat.strongRecOn generalizing r text position with
    | ind n ih =>
      subst hn
      rcases between_split hrun with ⟨hblank, rfl⟩ | ⟨before, first, rest, start, position', rfl,
        hbefore, hfirst, hkey⟩
      · exact ⟨[], .nil hblank, List.nodup_nil, fun _ hmem => absurd hmem List.not_mem_nil, [],
          entriesOf_nil_iff.mpr rfl, (List.append_nil _).symm⟩
      · obtain ⟨more, gap, gap', quote, value, rest, kept, next, position', rfl, hkey, hgap, hgap',
          hquote, hvalue, htakes, hrest⟩ := pair_split h hfirst hkey
        have hnext : { next with state := .between } = next := by
          rw [← htakes.state_eq]
        have hshort : rest.length < (before ++ first :: (more ++ (gap ++ '=' :: (gap' ++
            quote :: (value ++ quote :: rest))))).length := by
          simp only [List.length_append, List.length_cons]
          omega
        obtain ⟨pairs, hlist, hnodup, hnew, tail, htail, hentries⟩ :=
          ih rest.length hshort (htakes.consistent h) position' (hnext ▸ hrest) rfl
        refine ⟨(first :: more, value) :: pairs, .cons hbefore hkey hgap hgap' hquote hvalue hlist,
          ?_, ?_, kept ++ tail,
          entriesOf_cons_iff.mpr ⟨kept, tail, rfl, htakes.entriesOf, htail⟩, ?_⟩
        · refine List.nodup_cons.mpr ⟨fun hmem => ?_, hnodup⟩
          exact hnew _ hmem (htakes.keys_eq ▸ List.mem_cons_self)
        · rintro key (_ | ⟨_, hmem⟩)
          · exact htakes.fresh
          · intro hold
            exact hnew key hmem (htakes.keys_eq ▸ List.mem_cons_of_mem _ hold)
        · rw [hentries, htakes.entries_eq, List.append_assoc]
  · rintro ⟨pairs, hlist, hnodup, hnew, kept, hkept, hentries⟩
    induction hlist generalizing r position kept with
    | @nil blanks hblank =>
      have hend : attributes = r.attributes := by
        refine Attributes.ext ?_
        rw [hentries, entriesOf_nil_iff.mp hkept, List.append_nil]
      rw [← List.append_nil blanks, run_between hblank, hend]
      rfl
    | cons hbefore hkey hgap hgap' hquote hvalue _ ih =>
      obtain ⟨first, tail, rfl, hfirst, htail⟩ := entriesOf_cons_iff.mp hkept
      rw [List.map_cons, List.nodup_cons] at hnodup
      rw [List.map_cons, List.forall_mem_cons] at hnew
      obtain ⟨next, position', htakes, hrun⟩ :=
        run_pair h hbefore hkey hgap hgap' hquote hvalue hnew.1 hfirst position
      have hnext : { next with state := .between } = next := by
        rw [← htakes.state_eq]
      rw [hrun, ← hnext]
      refine ih (htakes.consistent h) position' hnodup.2 (fun key hmem hold => ?_) tail htail ?_
      · rw [htakes.keys_eq, List.mem_cons] at hold
        rcases hold with rfl | hold
        · exact hnodup.1 hmem
        · exact hnew.2 key hmem hold
      · rw [hentries, htakes.entries_eq, List.append_assoc]

end AttributeReader

/-- **The attributes of a tag.** The content behind the name must be an attribute list with
distinct keys, and its entries are kept in order. -/
theorem tagAttributes_eq_ok_iff {content : List Char} {attributes : Attributes} :
    tagAttributes content = .ok attributes ↔
      ∃ pairs, AttributeList (content.drop (tagName content).length) pairs ∧
        (pairs.map Prod.fst).Nodup ∧ EntriesOf pairs attributes.entries := by
  have hconsistent : AttributeReader.Consistent {} := fun _ hmem => absurd hmem List.not_mem_nil
  refine (AttributeReader.run_eq_ok_iff hconsistent _).trans ?_
  constructor
  · rintro ⟨pairs, hlist, hnodup, _, kept, hkept, hentries⟩
    exact ⟨pairs, hlist, hnodup, hentries ▸ hkept⟩
  · rintro ⟨pairs, hlist, hnodup, hentries⟩
    exact ⟨pairs, hlist, hnodup, fun _ _ hmem => absurd hmem List.not_mem_nil, _, hentries, rfl⟩

end GirStubs.Markup
