/-
  Pseudocode.Proofs.Names.History — what a history of declarations leaves in the symbol table.

  A history is a list of requests, made one after another of the empty table. A request asks for a
  program name or for a variable; the table answers it and is left changed or as it was (`serve`).

  The table keeps two stores, and the invariant that ties them is `Keeps`: both are read off one
  list, the requests accepted so far, in which no name occurs twice. Request number `n` of it left
  an address, which is `n` for a variable and 0 for a program name, and a symbol if it is a
  variable. So program names share the address 0, with each other and with a variable that was
  accepted first.

  Proved:
  (1) A request is refused exactly when its name is known, and then changes nothing
      (`serve_of_isKnown`, `serve_of_new`).
  (2) A request keeps the invariant (`keeps_serve`), so every history does (`keeps_after`).
  (3) The invariant tells what every look-up finds (`addressOf?_eq`, `lookup?_eq`, `typeOf?_eq`),
      and nothing that is known changes later (`addressOf?_after_append`, `lookup?_after_append`).
  (4) Which names share an address (`address_eq_iff`), and all laws of a history together
      (`historyLaws`).
-/

import Pseudocode.Names.SymbolTable
import Mathlib.Data.List.Basic
import Mathlib.Data.List.Induction
import Mathlib.Data.List.Nodup
import Mathlib.Data.List.ReduceOption

namespace Pseudocode

/-- What a program asks of its symbol table. -/
inductive Request where
  | program (lexeme : String)
  | var (lexeme : String) (type : ValueType) (scope : String)
  deriving DecidableEq, Repr

/-- What the table answers. -/
inductive Reply where
  | refused
  | named
  | declared (address : Nat)
  deriving DecidableEq, Repr

namespace Request

def lexeme : Request → String
  | program lexeme => lexeme
  | var lexeme _ _ => lexeme

def isProgram : Request → Bool
  | program _ => true
  | var .. => false

/-- The type that a request asks for; a program name has none. -/
def type? : Request → Option ValueType
  | program _ => none
  | var _ type _ => some type

/-- The answer to a request that is accepted when `n` names are known. -/
def reply (n : Nat) : Request → Reply
  | program _ => .named
  | var .. => .declared n

/-- The address that a request leaves when it is accepted with `n` names known. -/
def address (n : Nat) : Request → Nat
  | program _ => 0
  | var .. => n

/-- The symbol that a request leaves when it is accepted with `n` names known. -/
def symbol? (n : Nat) : Request → Option Symbol
  | program _ => none
  | var lexeme type scope =>
    some { kind := type.identifierKind, lexeme, value := type.initialValue, scope, address := n }

theorem reply_ne_refused (n : Nat) (r : Request) : r.reply n ≠ .refused := by
  cases r <;> simp [reply]

theorem address_le (n : Nat) (r : Request) : r.address n ≤ n := by
  cases r
  · exact Nat.zero_le n
  · exact Nat.le_refl n

theorem lexeme_of_symbol? {n : Nat} {r : Request} {s : Symbol} (h : r.symbol? n = some s) :
    s.lexeme = r.lexeme := by
  cases r with
  | program lexeme => cases h
  | var lexeme type scope => cases h; rfl

theorem address_of_symbol? {n : Nat} {r : Request} {s : Symbol} (h : r.symbol? n = some s) :
    s.address = n ∧ r.address n = n := by
  cases r with
  | program lexeme => cases h
  | var lexeme type scope => cases h; exact ⟨rfl, rfl⟩

theorem type?_eq (n : Nat) (r : Request) : (r.symbol? n).bind (·.kind.valueType?) = r.type? := by
  cases r with
  | program lexeme => rfl
  | var lexeme type scope => exact type.valueType?_identifierKind

end Request

namespace SymbolTable

/-! ## Serving a request -/

/-- Answers a request; a refused one leaves the table as it was. -/
def serve (t : SymbolTable) : Request → Reply × SymbolTable
  | .program lexeme =>
    match t.declareProgram lexeme with
    | none => (.refused, t)
    | some t' => (.named, t')
  | .var lexeme type scope =>
    match t.declare lexeme type scope with
    | none => (.refused, t)
    | some (address, t') => (.declared address, t')

theorem serve_of_isKnown {t : SymbolTable} {r : Request} (h : t.isKnown r.lexeme = true) :
    t.serve r = (.refused, t) := by
  cases r with
  | program lexeme =>
    have : t.declareProgram lexeme = none := declareProgram_eq_none_iff.2 h
    simp only [serve, this]
  | var lexeme type scope =>
    have : t.declare lexeme type scope = none := declare_eq_none_iff.2 h
    simp only [serve, this]

theorem serve_of_new {t : SymbolTable} {r : Request} (h : t.isKnown r.lexeme = false) :
    t.serve r =
      (r.reply t.knownCount,
        { symbols := t.symbols ++ (r.symbol? t.knownCount).toList
          addresses := t.addresses ++ [(r.lexeme, r.address t.knownCount)] }) := by
  cases r with
  | program lexeme =>
    have : t.isKnown lexeme = false := h
    simp [serve, declareProgram, this, Request.reply, Request.symbol?, Request.lexeme,
      Request.address]
  | var lexeme type scope =>
    have : t.isKnown lexeme = false := h
    simp [serve, declare, this, Request.reply, Request.symbol?, Request.lexeme, Request.address,
      newSymbol]

theorem serve_refused_iff {t : SymbolTable} {r : Request} :
    (t.serve r).1 = .refused ↔ t.isKnown r.lexeme = true := by
  by_cases h : t.isKnown r.lexeme = true
  · simp [serve_of_isKnown h, h]
  · rw [Bool.not_eq_true] at h
    simp [serve_of_new h, h, r.reply_ne_refused]

theorem symbols_serve_program (t : SymbolTable) (x : String) :
    (t.serve (.program x)).2.symbols = t.symbols := by
  cases hk : t.isKnown x with
  | true => rw [serve_of_isKnown hk]
  | false =>
    rw [serve_of_new hk]
    exact List.append_nil _

/-! ## The invariant -/

/-- What a table that has accepted some requests keeps of them. -/
structure Keeps (t : SymbolTable) (accepted : List Request) : Prop where
  nodup : (accepted.map Request.lexeme).Nodup
  symbols_eq : t.symbols = (accepted.mapIdx Request.symbol?).reduceOption
  addresses_eq : t.addresses = accepted.mapIdx fun n r => (r.lexeme, r.address n)

theorem keeps_empty : Keeps empty [] := ⟨List.nodup_nil, rfl, rfl⟩

section Keeps

variable {t : SymbolTable} {accepted : List Request} (h : Keeps t accepted)
include h

theorem knownCount_eq : t.knownCount = accepted.length := by
  unfold knownCount
  rw [h.addresses_eq, List.length_mapIdx]

theorem isKnown_iff_accepted {x : String} :
    t.isKnown x = true ↔ ∃ a ∈ accepted, a.lexeme = x := by
  rw [isKnown_iff, h.addresses_eq]
  constructor
  · intro ⟨known, hm, e⟩
    obtain ⟨n, hn, rfl⟩ := List.mem_mapIdx.1 hm
    exact ⟨accepted[n], List.getElem_mem hn, e⟩
  · intro ⟨a, hm, e⟩
    obtain ⟨n, hn, rfl⟩ := List.getElem_of_mem hm
    exact ⟨_, List.mem_mapIdx.2 ⟨n, hn, rfl⟩, e⟩

/-- A request that is accepted keeps the invariant. -/
theorem keeps_serve {r : Request} (new : t.isKnown r.lexeme = false) :
    Keeps (t.serve r).2 (accepted ++ [r]) := by
  rw [serve_of_new new, knownCount_eq h]
  constructor
  · have fresh : r.lexeme ∉ accepted.map Request.lexeme := by
      intro hm
      rw [(isKnown_iff_accepted h).2 (List.mem_map.1 hm)] at new
      cases new
    rw [List.map_append, List.map_singleton, ← List.concat_eq_append]
    exact h.nodup.concat fresh
  · show t.symbols ++ _ = _
    rw [List.mapIdx_concat, ← List.concat_eq_append, List.reduceOption_concat, h.symbols_eq]
  · show t.addresses ++ _ = _
    rw [List.mapIdx_concat, h.addresses_eq]

/-! ## What is found -/

theorem index_eq {i j : Nat} {a b : Request} (ha : accepted[i]? = some a)
    (hb : accepted[j]? = some b) (e : a.lexeme = b.lexeme) : i = j := by
  have lt : i < (accepted.map Request.lexeme).length := by
    rw [List.length_map]
    exact (List.getElem?_eq_some_iff.1 ha).1
  refine (List.getElem?_inj lt h.nodup).1 ?_
  rw [List.getElem?_map, List.getElem?_map, ha, hb]
  exact congrArg some e

theorem addressOf?_eq {n : Nat} {r : Request} (hr : accepted[n]? = some r) :
    t.addressOf? r.lexeme = some (r.address n) := by
  have held : (r.lexeme, r.address n) ∈ t.addresses := by
    rw [h.addresses_eq]
    exact List.mem_of_getElem? (by rw [List.getElem?_mapIdx, hr]; rfl)
  obtain ⟨known, hf⟩ : ∃ known, t.addresses.find? (·.1 = r.lexeme) = some known := by
    rw [← Option.isSome_iff_exists, List.find?_isSome]
    exact ⟨_, held, by simp⟩
  have e : known.1 = r.lexeme := by simpa using List.find?_some hf
  have hm := List.mem_of_find?_eq_some hf
  rw [h.addresses_eq] at hm
  obtain ⟨m, lt, rfl⟩ := List.mem_mapIdx.1 hm
  have : m = n := index_eq h (List.getElem?_eq_getElem lt) hr e
  subst this
  rw [List.getElem?_eq_getElem lt, Option.some.injEq] at hr
  unfold addressOf?
  rw [hf, ← hr]
  rfl

theorem addressOf?_serve {r : Request} (new : t.isKnown r.lexeme = false) :
    (t.serve r).2.addressOf? r.lexeme = some (r.address t.knownCount) := by
  rw [knownCount_eq h]
  exact addressOf?_eq (keeps_serve h new) List.getElem?_concat_length

theorem mem_symbols_iff {s : Symbol} :
    s ∈ t.symbols ↔ ∃ (n : Nat) (r : Request), accepted[n]? = some r ∧ r.symbol? n = some s := by
  rw [h.symbols_eq, List.reduceOption_mem_iff, List.mem_mapIdx]
  constructor
  · intro ⟨n, hn, e⟩
    exact ⟨n, accepted[n], List.getElem?_eq_getElem hn, e⟩
  · intro ⟨n, r, hr, e⟩
    obtain ⟨hn, rfl⟩ := List.getElem?_eq_some_iff.1 hr
    exact ⟨n, hn, e⟩

/-- A symbol carries the address that its name is looked up with. -/
theorem addressOf?_of_mem_symbols {s : Symbol} (hs : s ∈ t.symbols) :
    t.addressOf? s.lexeme = some s.address := by
  obtain ⟨n, r, hr, made⟩ := (mem_symbols_iff h).1 hs
  obtain ⟨address, taken⟩ := Request.address_of_symbol? made
  rw [Request.lexeme_of_symbol? made, address, ← taken]
  exact addressOf?_eq h hr

theorem lookup?_eq {n : Nat} {r : Request} (hr : accepted[n]? = some r) :
    t.lookup? r.lexeme = r.symbol? n := by
  have only {s : Symbol} (hs : s ∈ t.symbols) (e : s.lexeme = r.lexeme) : r.symbol? n = some s := by
    obtain ⟨m, a, ha, has⟩ := (mem_symbols_iff h).1 hs
    have : m = n := index_eq h ha hr (by rw [← Request.lexeme_of_symbol? has, e])
    subst this
    rw [hr, Option.some.injEq] at ha
    rw [ha, has]
  cases hf : t.lookup? r.lexeme with
  | some s =>
    have e : s.lexeme = r.lexeme := by simpa using List.find?_some hf
    exact (only (List.mem_of_find?_eq_some hf) e).symm
  | none =>
    cases hs : r.symbol? n with
    | none => rfl
    | some s =>
      have hm : s ∈ t.symbols := (mem_symbols_iff h).2 ⟨n, r, hr, hs⟩
      have := List.find?_eq_none.1 hf s hm
      simp [Request.lexeme_of_symbol? hs] at this

theorem lookup?_of_unknown {x : String} (unknown : t.isKnown x = false) : t.lookup? x = none := by
  cases hf : t.lookup? x with
  | none => rfl
  | some s =>
    obtain ⟨n, r, hr, hs⟩ := (mem_symbols_iff h).1 (List.mem_of_find?_eq_some hf)
    have e : s.lexeme = x := by simpa using List.find?_some hf
    have known : t.isKnown x = true := (isKnown_iff_accepted h).2
      ⟨r, List.mem_of_getElem? hr, by rw [← Request.lexeme_of_symbol? hs, e]⟩
    rw [unknown] at known
    cases known

theorem typeOf?_eq {n : Nat} {r : Request} (hr : accepted[n]? = some r) :
    t.typeOf? r.lexeme = r.type? := by
  unfold typeOf?
  rw [lookup?_eq h hr, Request.type?_eq]

/-! ## Addresses -/

theorem addresses_increase : t.symbols.Pairwise fun a b => a.address < b.address := by
  rw [h.symbols_eq, List.reduceOption, List.pairwise_filterMap, List.pairwise_iff_getElem]
  intro i j hi hj lt a ha b hb
  rw [id, List.getElem_mapIdx] at ha hb
  rw [(Request.address_of_symbol? ha).1, (Request.address_of_symbol? hb).1]
  exact lt

theorem address_lt {s : Symbol} (hs : s ∈ t.symbols) : s.address < t.knownCount := by
  obtain ⟨n, r, hr, e⟩ := (mem_symbols_iff h).1 hs
  rw [(Request.address_of_symbol? e).1, knownCount_eq h]
  exact (List.getElem?_eq_some_iff.1 hr).1

theorem addressOf?_lt {x : String} {address : Nat} (ha : t.addressOf? x = some address) :
    address < t.knownCount := by
  have known : t.isKnown x = true := by rw [← isSome_addressOf?, ha]; rfl
  obtain ⟨r, hm, rfl⟩ := (isKnown_iff_accepted h).1 known
  obtain ⟨n, hr⟩ := List.getElem?_of_mem hm
  rw [addressOf?_eq h hr, Option.some.injEq] at ha
  have lt := (List.getElem?_eq_some_iff.1 hr).1
  have le := r.address_le n
  rw [knownCount_eq h]
  omega

theorem lexemes_nodup : (t.symbols.map Symbol.lexeme).Nodup := by
  have found {s : Symbol} (hs : s ∈ t.symbols) : t.lookup? s.lexeme = some s := by
    obtain ⟨n, r, hr, e⟩ := (mem_symbols_iff h).1 hs
    rw [Request.lexeme_of_symbol? e, lookup?_eq h hr, e]
  refine List.Nodup.map_on ?_ ?_
  · intro a ha b hb e
    have : t.lookup? a.lexeme = some b := e ▸ found hb
    rw [found ha] at this
    exact Option.some.inj this
  · refine (addresses_increase h).imp ?_
    intro a b lt e
    subst e
    exact Nat.lt_irrefl _ lt

theorem length_symbols : t.symbols.length + accepted.countP Request.isProgram = t.knownCount := by
  have length_eq (rs : List Request) (f : Nat → Nat) :
      (rs.mapIdx fun n => Request.symbol? (f n)).reduceOption.length +
        rs.countP Request.isProgram = rs.length := by
    induction rs generalizing f with
    | nil => rfl
    | cons r rs ih =>
      have := ih (f ∘ (· + 1))
      rw [List.mapIdx_cons, List.countP_cons, List.length_cons]
      cases r with
      | program lexeme =>
        simp only [Request.symbol?, List.reduceOption_cons_of_none, Request.isProgram, if_true]
        simp only [Function.comp_def] at this
        omega
      | var lexeme type scope =>
        simp only [Request.symbol?, List.reduceOption_cons_of_some, Request.isProgram,
          List.length_cons, Bool.false_eq_true, if_false]
        simp only [Function.comp_def] at this
        omega
  rw [h.symbols_eq, knownCount_eq h]
  exact length_eq accepted id

end Keeps

/-- Two requests left the same address exactly when both asked for program names, or one did and
the other asked for a variable and was accepted first. -/
theorem address_eq_iff {accepted : List Request} {i j : Nat} {a b : Request}
    (ha : accepted[i]? = some a) (hb : accepted[j]? = some b) (ne : a.lexeme ≠ b.lexeme) :
    a.address i = b.address j ↔
      (a.isProgram = true ∧ b.isProgram = true) ∨
        (a.isProgram = true ∧ b.isProgram = false ∧ j = 0) ∨
          (a.isProgram = false ∧ i = 0 ∧ b.isProgram = true) := by
  have apart : i ≠ j := by
    intro e
    subst e
    rw [ha] at hb
    cases hb
    exact ne rfl
  cases a with
  | program x =>
    cases b with
    | program y => simp [Request.address, Request.isProgram]
    | var y type scope => simp [Request.address, Request.isProgram, eq_comm]
  | var x type scope =>
    cases b with
    | program y => simp [Request.address, Request.isProgram]
    | var y type' scope' => simpa [Request.address, Request.isProgram] using apart

/-! ## Histories -/

/-- The table that a history leaves. -/
def after (history : List Request) : SymbolTable :=
  history.foldl (fun t r => (t.serve r).2) empty

/-- The requests that a table accepts when they are made of it in order. -/
def acceptedFrom (t : SymbolTable) : List Request → List Request
  | [] => []
  | r :: rest =>
    if (t.serve r).1 = .refused then acceptedFrom t rest else r :: acceptedFrom (t.serve r).2 rest

/-- The accepted requests of a history, in order. -/
def accepted (history : List Request) : List Request := acceptedFrom empty history

theorem after_concat (history : List Request) (r : Request) :
    after (history ++ [r]) = ((after history).serve r).2 := by
  unfold after
  rw [List.foldl_append]
  rfl

theorem acceptedFrom_concat (t : SymbolTable) (history : List Request) (r : Request) :
    acceptedFrom t (history ++ [r]) = acceptedFrom t history ++
      if ((history.foldl (fun t r => (t.serve r).2) t).serve r).1 = .refused then [] else [r] := by
  induction history generalizing t with
  | nil => rfl
  | cons first history ih =>
    rw [List.cons_append, acceptedFrom, acceptedFrom, List.foldl_cons]
    split
    · rename_i refused
      rw [serve_of_isKnown (serve_refused_iff.1 refused), ih]
    · rw [ih, List.cons_append]

theorem accepted_concat_of_isKnown {history : List Request} {r : Request}
    (known : (after history).isKnown r.lexeme = true) :
    accepted (history ++ [r]) = accepted history := by
  have refused := serve_refused_iff.2 known
  rw [after] at refused
  rw [accepted, acceptedFrom_concat, if_pos refused, List.append_nil]
  rfl

theorem accepted_concat_of_new {history : List Request} {r : Request}
    (new : (after history).isKnown r.lexeme = false) :
    accepted (history ++ [r]) = accepted history ++ [r] := by
  have taken : ((after history).serve r).1 ≠ .refused := by
    rw [serve_of_new new]
    exact r.reply_ne_refused _
  rw [after] at taken
  rw [accepted, acceptedFrom_concat, if_neg taken]
  rfl

/-- Every history leaves a table that keeps its accepted requests. -/
theorem keeps_after (history : List Request) : Keeps (after history) (accepted history) := by
  induction history using List.reverseRecOn with
  | nil => exact keeps_empty
  | append_singleton history r ih =>
    rw [after_concat]
    cases hk : (after history).isKnown r.lexeme with
    | true =>
      rw [serve_of_isKnown hk, accepted_concat_of_isKnown hk]
      exact ih
    | false =>
      rw [accepted_concat_of_new hk]
      exact keeps_serve ih hk

/-- What was accepted stays accepted, at its place. -/
theorem accepted_isPrefix (history later : List Request) :
    accepted history <+: accepted (history ++ later) := by
  induction later using List.reverseRecOn with
  | nil => simp
  | append_singleton later r ih =>
    rw [← List.append_assoc]
    cases hk : (after (history ++ later)).isKnown r.lexeme with
    | true =>
      rw [accepted_concat_of_isKnown hk]
      exact ih
    | false =>
      rw [accepted_concat_of_new hk]
      exact ih.trans (List.prefix_append _ _)

theorem exists_accepted_of_isKnown {history : List Request} {x : String}
    (h : (after history).isKnown x = true) (later : List Request) :
    ∃ (n : Nat) (r : Request), r.lexeme = x ∧ (accepted history)[n]? = some r ∧
      (accepted (history ++ later))[n]? = some r := by
  obtain ⟨r, hm, e⟩ := (isKnown_iff_accepted (keeps_after history)).1 h
  obtain ⟨n, hr⟩ := List.getElem?_of_mem hm
  obtain ⟨more, hp⟩ := accepted_isPrefix history later
  have lt := (List.getElem?_eq_some_iff.1 hr).1
  exact ⟨n, r, e, hr, by rw [← hp, List.getElem?_append_left lt, hr]⟩

theorem addressOf?_after_append {history : List Request} {x : String}
    (h : (after history).isKnown x = true) (later : List Request) :
    (after (history ++ later)).addressOf? x = (after history).addressOf? x := by
  obtain ⟨n, r, rfl, hr, hr'⟩ := exists_accepted_of_isKnown h later
  rw [addressOf?_eq (keeps_after _) hr, addressOf?_eq (keeps_after _) hr']

theorem lookup?_after_append {history : List Request} {x : String}
    (h : (after history).isKnown x = true) (later : List Request) :
    (after (history ++ later)).lookup? x = (after history).lookup? x := by
  obtain ⟨n, r, rfl, hr, hr'⟩ := exists_accepted_of_isKnown h later
  rw [lookup?_eq (keeps_after _) hr, lookup?_eq (keeps_after _) hr']

/-- What is accepted for a name is its first request. -/
theorem find?_accepted (history : List Request) (x : String) :
    (accepted history).find? (·.lexeme = x) = history.find? (·.lexeme = x) := by
  induction history using List.reverseRecOn with
  | nil => rfl
  | append_singleton history r ih =>
    cases hk : (after history).isKnown r.lexeme with
    | false => rw [accepted_concat_of_new hk, List.find?_append, List.find?_append, ih]
    | true =>
      rw [accepted_concat_of_isKnown hk, List.find?_append, ← ih]
      by_cases e : r.lexeme = x
      · have : ((accepted history).find? (·.lexeme = x)).isSome = true := by
          rw [List.find?_isSome]
          obtain ⟨a, ha, e'⟩ := (isKnown_iff_accepted (keeps_after history)).1 hk
          exact ⟨a, ha, by simpa [e] using e'⟩
        rw [Option.or_of_isSome this]
      · simp [e]

theorem isKnown_after (history : List Request) (x : String) :
    (after history).isKnown x = (history.find? (·.lexeme = x)).isSome := by
  rw [← find?_accepted, Bool.eq_iff_iff, isKnown_iff_accepted (keeps_after history),
    List.find?_isSome]
  simp

theorem typeOf?_after (history : List Request) (x : String) :
    (after history).typeOf? x = (history.find? (·.lexeme = x)).bind Request.type? := by
  cases hf : history.find? (·.lexeme = x) with
  | none =>
    have unknown : (after history).isKnown x = false := by rw [isKnown_after, hf]; rfl
    unfold typeOf?
    rw [lookup?_of_unknown (keeps_after history) unknown]
    rfl
  | some r =>
    rw [← find?_accepted] at hf
    have e : r.lexeme = x := by simpa using List.find?_some hf
    obtain ⟨n, hr⟩ := List.getElem?_of_mem (List.mem_of_find?_eq_some hf)
    rw [← e, typeOf?_eq (keeps_after history) hr]
    rfl

/-! ## The laws of a history -/

/-- Whether a history accepted a name as a program name. -/
def IsProgramName (history : List Request) (x : String) : Prop := .program x ∈ accepted history

/-- Whether the first request that a history accepted declared a variable of this name. -/
def IsFirstVariable (history : List Request) (x : String) : Prop :=
  ∃ type scope, (accepted history)[0]? = some (.var x type scope)

/-- What holds of the table after any history. Its place in `accepted history` is the number of
requests that were accepted before a request. -/
structure HistoryLaws (history : List Request) : Prop where
  /-- A request is accepted exactly when no accepted request asked for its name. -/
  accepts_iff : ∀ r, ((after history).serve r).1 ≠ .refused ↔
    ∀ a ∈ accepted history, a.lexeme ≠ r.lexeme
  /-- A variable that is accepted is told the number of requests accepted before it. -/
  reply_eq : ∀ r, ((after history).serve r).1 ≠ .refused →
    ((after history).serve r).1 = r.reply (accepted history).length
  refused_unchanged : ∀ r, ((after history).serve r).1 = .refused →
    ((after history).serve r).2 = after history
  isKnown_iff : ∀ x, (after history).isKnown x = true ↔ ∃ a ∈ accepted history, a.lexeme = x
  lexemes_nodup : ((after history).symbols.map Symbol.lexeme).Nodup
  knownCount_eq : (after history).knownCount =
    (after history).symbols.length + (accepted history).countP Request.isProgram
  /-- The symbols are those of the accepted variables, numbered by what was accepted before. -/
  mem_symbols_iff : ∀ s, s ∈ (after history).symbols ↔
    ∃ (n : Nat) (x : String) (type : ValueType) (scope : String),
      (accepted history)[n]? = some (.var x type scope) ∧
        s = ⟨type.identifierKind, x, type.initialValue, scope, n⟩
  addresses_increase : (after history).symbols.Pairwise fun a b => a.address < b.address
  address_lt : ∀ s ∈ (after history).symbols, s.address < (after history).knownCount
  /-- Both stores tell the same address of a variable, and its type is the one it was given. -/
  variable_found : ∀ (n : Nat) (x : String) (type : ValueType) (scope : String),
    (accepted history)[n]? = some (.var x type scope) →
      (after history).addressOf? x = some n ∧
        ((after history).lookup? x).map Symbol.address = some n ∧
          (after history).typeOf? x = some type
  program_found : ∀ x, IsProgramName history x →
    (after history).addressOf? x = some 0 ∧ (after history).lookup? x = none ∧
      (after history).typeOf? x = none
  /-- No later request changes what is found of a known name. -/
  persists : ∀ later x, (after history).isKnown x = true →
    (after (history ++ later)).addressOf? x = (after history).addressOf? x ∧
      (after (history ++ later)).typeOf? x = (after history).typeOf? x
  /-- Which names share an address. -/
  shared_iff : ∀ x y, (after history).isKnown x = true → (after history).isKnown y = true → x ≠ y →
    ((after history).addressOf? x = (after history).addressOf? y ↔
      (IsProgramName history x ∧ IsProgramName history y) ∨
        (IsProgramName history x ∧ IsFirstVariable history y) ∨
          (IsFirstVariable history x ∧ IsProgramName history y))

/-- An accepted request is for a program name when its name was accepted as one. -/
theorem isProgramName_iff {history : List Request} {n : Nat} {r : Request}
    (hr : (accepted history)[n]? = some r) :
    IsProgramName history r.lexeme ↔ r.isProgram = true := by
  constructor
  · intro hm
    obtain ⟨m, hp⟩ := List.getElem?_of_mem hm
    have : m = n := index_eq (keeps_after history) hp hr rfl
    subst this
    rw [hr, Option.some.injEq] at hp
    rw [hp]
    rfl
  · intro isProgram
    cases r with
    | program x => exact List.mem_of_getElem? hr
    | var x type scope => cases isProgram

theorem isFirstVariable_iff {history : List Request} {n : Nat} {r : Request}
    (hr : (accepted history)[n]? = some r) :
    IsFirstVariable history r.lexeme ↔ r.isProgram = false ∧ n = 0 := by
  constructor
  · intro ⟨type, scope, first⟩
    have : n = 0 := index_eq (keeps_after history) hr first rfl
    subst this
    rw [hr, Option.some.injEq] at first
    rw [first]
    exact ⟨rfl, rfl⟩
  · intro ⟨isVar, e⟩
    subst e
    cases r with
    | program x => cases isVar
    | var x type scope => exact ⟨type, scope, hr⟩

/-- Every history obeys the laws. -/
theorem historyLaws (history : List Request) : HistoryLaws history := by
  have keeps := keeps_after history
  have refused_iff (r : Request) : ((after history).serve r).1 = .refused ↔
      ∃ a ∈ accepted history, a.lexeme = r.lexeme :=
    serve_refused_iff.trans (isKnown_iff_accepted keeps)
  constructor
  case accepts_iff =>
    intro r
    rw [Ne, refused_iff]
    exact ⟨fun none a ha e => none ⟨a, ha, e⟩, fun none ⟨a, ha, e⟩ => none a ha e⟩
  case reply_eq =>
    intro r taken
    have new : (after history).isKnown r.lexeme = false := by
      rw [← Bool.not_eq_true]
      exact fun known => taken (serve_refused_iff.2 known)
    rw [serve_of_new new, knownCount_eq keeps]
  case refused_unchanged =>
    intro r refused
    rw [serve_of_isKnown (serve_refused_iff.1 refused)]
  case isKnown_iff => exact fun x => isKnown_iff_accepted keeps
  case lexemes_nodup => exact lexemes_nodup keeps
  case knownCount_eq => exact (length_symbols keeps).symm
  case mem_symbols_iff =>
    intro s
    rw [mem_symbols_iff keeps]
    constructor
    · intro ⟨n, r, hr, e⟩
      cases r with
      | program x => cases e
      | var x type scope =>
        cases e
        exact ⟨n, x, type, scope, hr, rfl⟩
    · intro ⟨n, x, type, scope, hr, e⟩
      exact ⟨n, .var x type scope, hr, congrArg some e.symm⟩
  case addresses_increase => exact addresses_increase keeps
  case address_lt => exact fun s => address_lt keeps
  case variable_found =>
    intro n x type scope hr
    have found : (after history).lookup? x = _ := lookup?_eq keeps hr
    refine ⟨addressOf?_eq keeps hr, ?_, typeOf?_eq keeps hr⟩
    rw [found]
    rfl
  case program_found =>
    intro x hm
    obtain ⟨n, hr⟩ := List.getElem?_of_mem hm
    exact ⟨addressOf?_eq keeps hr, lookup?_eq keeps hr, typeOf?_eq keeps hr⟩
  case persists =>
    intro later x known
    refine ⟨addressOf?_after_append known later, ?_⟩
    unfold typeOf?
    rw [lookup?_after_append known later]
  case shared_iff =>
    intro x y hx hy ne
    obtain ⟨a, ha, rfl⟩ := (isKnown_iff_accepted keeps).1 hx
    obtain ⟨b, hb, rfl⟩ := (isKnown_iff_accepted keeps).1 hy
    obtain ⟨i, hi⟩ := List.getElem?_of_mem ha
    obtain ⟨j, hj⟩ := List.getElem?_of_mem hb
    rw [addressOf?_eq keeps hi, addressOf?_eq keeps hj, Option.some.injEq,
      address_eq_iff hi hj ne, isProgramName_iff hi, isProgramName_iff hj,
      isFirstVariable_iff hi, isFirstVariable_iff hj, and_assoc]

/-- A variable that is declared before the program is named shares its address. -/
example :
    let t := after [.var "total" .int "Main", .program "demo"]
    t.addressOf? "total" = some 0 ∧ t.addressOf? "demo" = some 0 := by decide

end SymbolTable

end Pseudocode
