import Mathlib
import TxDispatch.Proofs.KeyOrder
import TxDispatch.Proofs.Outcomes

namespace TxDispatch

open Text

namespace Json

theorem object_swap {m n : String × Json} (distinct : m.1 ≠ n.1)
    (before after : List (String × Json)) :
    object (before ++ m :: n :: after) = object (before ++ n :: m :: after) := by
  simp only [object, List.foldl_append, List.foldl_cons]
  rw [put_comm distinct]

namespace Tree

/-- Two neighbouring members of different names change places, in an object at any depth. -/
inductive Swap : Tree → Tree → Prop where
  | here {before after : List (Option String × Tree)} {m n : Option String × Tree}
    (distinct : m.1 ≠ n.1) :
    Swap (.obj (before ++ m :: n :: after)) (.obj (before ++ n :: m :: after))
  | item {before after : List Tree} {x y : Tree} (h : Swap x y) :
    Swap (.arr (before ++ x :: after)) (.arr (before ++ y :: after))
  | member {before after : List (Option String × Tree)} {k : Option String} {x y : Tree}
    (h : Swap x y) : Swap (.obj (before ++ (k, x) :: after)) (.obj (before ++ (k, y) :: after))

/-- The members of objects stand in another order, in which those of one name keep theirs. -/
def Rearranged : Tree → Tree → Prop := Relation.ReflTransGen Swap

theorem Swap.cons {ms : List (Option String × Tree)} {t : Tree} (h : Swap (.obj ms) t)
    (m : Option String × Tree) : ∃ ns, t = .obj ns ∧ Swap (.obj (m :: ms)) (.obj (m :: ns)) := by
  cases h with
  | @here before after _ _ distinct => exact ⟨_, rfl, @Swap.here (m :: before) after _ _ distinct⟩
  | @member before after _ _ _ h => exact ⟨_, rfl, @Swap.member (m :: before) after _ _ _ h⟩

theorem Rearranged.cons {ms ns : List (Option String × Tree)} (h : Rearranged (.obj ms) (.obj ns))
    (m : Option String × Tree) : Rearranged (.obj (m :: ms)) (.obj (m :: ns)) := by
  suffices hrest : ∀ t, Rearranged (.obj ms) t →
      ∃ ns, t = .obj ns ∧ Rearranged (.obj (m :: ms)) (.obj (m :: ns)) by
    obtain ⟨_, same, hcons⟩ := hrest _ h
    cases same
    exact hcons
  intro t ht
  induction ht with
  | refl => exact ⟨ms, rfl, .refl⟩
  | tail _ step ih =>
    obtain ⟨ns, rfl, hcons⟩ := ih
    obtain ⟨ns', rfl, hstep⟩ := step.cons m
    exact ⟨ns', rfl, hcons.tail hstep⟩

/-- Members of different names may stand in any order. -/
theorem Rearranged.of_perm {ms ns : List (Option String × Tree)} (order : ms.Perm ns)
    (distinct : (ms.map Prod.fst).Nodup) : Rearranged (.obj ms) (.obj ns) := by
  induction order with
  | nil => exact .refl
  | cons m _ ih => exact (ih (List.nodup_cons.mp distinct).2).cons m
  | swap m n ms =>
    apply Relation.ReflTransGen.single
    apply @Swap.here [] ms n m
    intro same
    apply (List.nodup_cons.mp distinct).1
    rw [same]
    exact List.mem_cons_self
  | trans first _ ih ih' =>
    exact (ih distinct).trans (ih' ((first.map Prod.fst).nodup_iff.mp distinct))

theorem itemsToJson?_eq_mapM (depth : Nat) (xs : List Tree) :
    itemsToJson? depth xs = xs.mapM (toJson? depth) := by
  induction xs with
  | nil => rfl
  | cons x xs ih => rw [itemsToJson?, ih, List.mapM_cons]

def memberToJson? (depth : Nat) (m : Option String × Tree) : Option (String × Json) := do
  return (← m.1, ← toJson? depth m.2)

theorem membersToJson?_eq_mapM (depth : Nat) (ms : List (Option String × Tree)) :
    membersToJson? depth ms = ms.mapM (memberToJson? depth) := by
  induction ms with
  | nil => rfl
  | cons m ms ih =>
    rw [membersToJson?, ih, List.mapM_cons, memberToJson?]
    simp [Option.bind_assoc]

theorem memberToJson?_name {depth : Nat} {m : Option String × Tree} {n : String × Json}
    (h : memberToJson? depth m = some n) : m.1 = some n.1 := by
  simp only [memberToJson?, Option.bind_eq_bind, Option.bind_eq_some_iff, Option.pure_def,
    Option.some.injEq] at h
  obtain ⟨k, hk, v, _, rfl⟩ := h
  exact hk

/-- A swap within a tree keeps its value, and keeps it from having one. -/
theorem Swap.toJson? {t t' : Tree} (h : Swap t t') (depth : Nat) :
    t.toJson? depth = t'.toJson? depth := by
  induction h generalizing depth with
  | @here before after m n distinct =>
    cases depth with
    | zero => rfl
    | succ depth =>
      simp only [Tree.toJson?, membersToJson?_eq_mapM, List.mapM_append, List.mapM_cons]
      cases hm : memberToJson? depth m with
      | none => cases hn : memberToJson? depth n <;> simp
      | some m' =>
        cases hn : memberToJson? depth n with
        | none => simp
        | some n' =>
          have hdistinct : m'.1 ≠ n'.1 := by
            intro same
            rw [memberToJson?_name hm, memberToJson?_name hn, same] at distinct
            exact distinct rfl
          cases before.mapM (memberToJson? depth) with
          | none => rfl
          | some before' =>
            cases after.mapM (memberToJson? depth) with
            | none => rfl
            | some after' => exact congrArg some (object_swap hdistinct before' after')
  | item _ ih =>
    cases depth with
    | zero => rfl
    | succ depth =>
      simp only [Tree.toJson?, itemsToJson?_eq_mapM, List.mapM_append, List.mapM_cons, ih depth]
  | member _ ih =>
    cases depth with
    | zero => rfl
    | succ depth =>
      simp only [Tree.toJson?, membersToJson?_eq_mapM, List.mapM_append, List.mapM_cons,
        memberToJson?, ih depth]

theorem Rearranged.toJson? {t t' : Tree} (h : Rearranged t t') (depth : Nat) :
    t.toJson? depth = t'.toJson? depth := by
  induction h with
  | refl => rfl
  | tail _ step ih => exact ih.trans (step.toJson? depth)

end Tree

/-- Texts that differ only in white space, in the order of members and in how characters are
escaped. -/
def Alike (s s' : String) : Prop :=
  ∃ t t', Grammar.Document t s.toList ∧ Grammar.Document t' s'.toList ∧ Tree.Rearranged t t'

theorem Alike.ofText? {s s' : String} (h : Alike s s') : ofText? s = ofText? s' := by
  obtain ⟨t, t', ht, ht', rearranged⟩ := h
  simp only [Json.ofText?, Tree.ofText?, Grammar.tree?_eq_some_iff.mpr ht,
    Grammar.tree?_eq_some_iff.mpr ht', Option.bind_some, rearranged.toJson?]

end Json

theorem Coins.toJson_ordered (coins : List Coin) : (Coins.toJson coins).Ordered := by
  apply Json.Ordered.arr
  intro v hv
  obtain ⟨c, _, rfl⟩ := List.mem_map.mp hv
  apply Json.Ordered.obj
  · change ["amount", "denom"].Pairwise (· < ·)
    decide
  · simp [Json.Ordered.str]

theorem Fee.toJson_ordered (f : Fee) : f.toJson.Ordered := by
  apply Json.Ordered.obj
  · change ["amount", "gas"].Pairwise (· < ·)
    decide
  · simp [Json.Ordered.str, Coins.toJson_ordered]

namespace Operation

/-- The members of every object in the message are in the order of their keys, as they are in every
value that was read from a text. -/
def Ordered : Operation → Prop
  | storeCode _ => True
  | instantiate _ msg _ _ => msg.Ordered
  | execute _ msg _ => msg.Ordered

theorem typed_ordered (kind : String) {v : Json} (h : v.Ordered) :
    (Json.obj [("type", .str kind), ("value", v)]).Ordered := by
  apply Json.Ordered.obj
  · change ["type", "value"].Pairwise (· < ·)
    decide
  · simp [Json.Ordered.str, h]

theorem toMsg_ordered {op : Operation} (h : op.Ordered) (sender : String) :
    (op.toMsg sender).Ordered := by
  cases op with
  | storeCode bytecode =>
    apply typed_ordered
    apply Json.Ordered.obj
    · change ["sender", "wasm_byte_code"].Pairwise (· < ·)
      decide
    · simp [Json.Ordered.str]
  | instantiate codeId msg migratable coins =>
    have hmsg : msg.Ordered := h
    apply typed_ordered
    apply Json.Ordered.obj
    · change ["admin", "code_id", "init_coins", "init_msg", "sender"].Pairwise (· < ·)
      decide
    · simp [Json.Ordered.str, Coins.toJson_ordered, hmsg]
  | execute contract msg coins =>
    have hmsg : msg.Ordered := h
    apply typed_ordered
    apply Json.Ordered.obj
    · change ["coins", "contract", "execute_msg", "sender"].Pairwise (· < ·)
      decide
    · simp [Json.Ordered.str, Coins.toJson_ordered, hmsg]

/-- What is asked for, but for the message of a contract. -/
inductive Frame where
  | storeCode (bytecode : List UInt8)
  | instantiate (codeId : UInt64) (migratable : Bool) (coins : List Coin)
  | execute (contract : String) (coins : List Coin)

def Frame.operation? (text : String) : Frame → Option Operation
  | storeCode bytecode => some (.storeCode bytecode)
  | instantiate codeId migratable coins =>
    (Json.ofText? text).map fun msg => .instantiate codeId msg migratable coins
  | execute contract coins => (Json.ofText? text).map fun msg => .execute contract msg coins

theorem Frame.operation?_ordered {f : Frame} {text : String} {op : Operation}
    (h : f.operation? text = some op) : op.Ordered := by
  cases f with
  | storeCode bytecode =>
    cases h
    trivial
  | instantiate | execute =>
    obtain ⟨msg, hmsg, rfl⟩ := Option.map_eq_some_iff.mp h
    exact Json.ofText?_ordered hmsg

theorem Frame.operation?_alike {text text' : String} (h : Json.Alike text text') (f : Frame) :
    f.operation? text = f.operation? text' := by
  cases f with
  | storeCode bytecode => rfl
  | instantiate codeId migratable coins => rw [operation?, operation?, h.ofText?]
  | execute contract coins => rw [operation?, operation?, h.ofText?]

end Operation

theorem Envelope.signDoc_ordered {e : Envelope} (h : e.operation.Ordered) :
    e.signDoc.toJson.Ordered := by
  have hmsgs : (Json.arr [e.operation.toMsg e.sender]).Ordered := by
    apply Json.Ordered.arr
    intro v hv
    obtain rfl := List.mem_singleton.mp hv
    exact Operation.toMsg_ordered h e.sender
  apply Json.Ordered.obj
  · change ["account_number", "chain_id", "fee", "memo", "msgs", "sequence"].Pairwise (· < ·)
    decide
  · simp [signDoc, Json.Ordered.str, Fee.toJson_ordered, hmsgs]

namespace Proofs

/-- Bytes are the text of a JSON value, and the names of each object in it are in the order of their
bytes, each name once. -/
def KeysIncrease (bytes : List UInt8) : Prop :=
  ∃ cs t, bytes = Utf8.encode cs ∧ Json.Grammar.Document t cs ∧
    ∀ ms, Json.Tree.Within (.obj ms) t → Json.Tree.NamesIncrease ms

theorem keysIncrease_signBytes {e : Envelope} (h : e.operation.Ordered) :
    KeysIncrease e.signBytes := by
  refine ⟨e.signDoc.toJson.render, e.signDoc.toJson.tree, rfl, ?_, ?_⟩
  · exact (Json.valueText_render _).document
  · intro ms within
    exact (Envelope.signDoc_ordered h).namesIncrease within

/-- Texts that are alike ask for the same operation, which has one message, one text to sign and one
signature; and in what is signed the members of each object are in the order of their keys. -/
theorem canonical_bytes (memo : String) (w : Wallet) (fee : Fee) (f : Operation.Frame) :
    (∀ text text', Json.Alike text text' → f.operation? text = f.operation? text' ∧
      ∀ op op', f.operation? text = some op → f.operation? text' = some op' →
        op.toMsg w.account = op'.toMsg w.account ∧
        ∀ e e', Envelope.build memo w op fee = .ok e → Envelope.build memo w op' fee = .ok e' →
          e.signBytes = e'.signBytes ∧ e.signature = e'.signature) ∧
    (∀ text op, f.operation? text = some op → op.Ordered) ∧
    ∀ op e, op.Ordered → Envelope.build memo w op fee = .ok e → KeysIncrease e.signBytes := by
  refine ⟨?_, ?_, ?_⟩
  · intro text text' alike
    have hsame := Operation.Frame.operation?_alike alike f
    refine ⟨hsame, ?_⟩
    intro op op' hop hop'
    obtain rfl : op = op' := by
      rw [hsame, hop'] at hop
      exact (Option.some.inj hop).symm
    refine ⟨rfl, ?_⟩
    intro e e' he he'
    obtain rfl : e = e' := Except.ok.inj (he.symm.trans he')
    exact ⟨rfl, rfl⟩
  · intro text op hop
    exact Operation.Frame.operation?_ordered hop
  · intro op e hop he
    obtain ⟨_, rfl⟩ := Envelope.build_eq_ok he
    exact keysIncrease_signBytes hop

/-- The second text of a message has white space and escapes, and other orders of members in a list
and around it. -/
theorem canonical_bytes_reordered :
    let text := "\x7b\"b\":[\x7b\"d\":1,\"c\":\"A\"\x7d],\"a\":null\x7d"
    let text' := " \x7b\"a\" : null,\n\"\\u0062\":[ \x7b\"c\":\"\\u0041\",\"d\":1\x7d] \x7d"
    let f : Operation.Frame := .execute "terra1contract" []
    let w := leastSession.wallet
    let fee := leastOrder.fee
    Json.Alike text text' ∧ f.operation? text = f.operation? text' ∧
      ∃ op e, f.operation? text = some op ∧ f.operation? text' = some op ∧ op.Ordered ∧
        Envelope.build "" w op fee = .ok e ∧ KeysIncrease e.signBytes := by
  intro text text' f w fee
  let one : Json.Tree := .num ⟨false, ['1'], [], none⟩
  let letter : Json.Tree := .str (some "A")
  let swapped : Json.Tree := .obj [(some "c", letter), (some "d", one)]
  have hread : Json.Reader.tree? text.toList = some (.obj [(some "b",
      .arr [.obj [(some "d", one), (some "c", letter)]]), (some "a", .null)]) := by cbv
  have hread' : Json.Reader.tree? text'.toList =
      some (.obj [(some "a", .null), (some "b", .arr [swapped])]) := by cbv
  have hinner := @Json.Tree.Swap.here [] [] (some "d", one) (some "c", letter) (by decide)
  have hitem := @Json.Tree.Swap.member [] [(some "a", .null)] (some "b") _ _
    (@Json.Tree.Swap.item [] [] _ _ hinner)
  have houter := @Json.Tree.Rearranged.of_perm
    [(some "b", .arr [swapped]), (some "a", .null)] _ (.swap _ _ _) (by decide)
  have halike : Json.Alike text text' := ⟨_, _, Json.Grammar.tree?_eq_some_iff.mp hread,
    Json.Grammar.tree?_eq_some_iff.mp hread', .head hitem houter⟩
  obtain ⟨hsame, hordered, hkeys⟩ := canonical_bytes "" w fee f
  have hmsg : Json.ofText? text = some (.obj [("a", .null),
      ("b", .arr [.obj [("c", .str "A"), ("d", .int 1)]])]) := by
    rw [Json.ofText?, Json.Tree.ofText?, hread]
    rfl
  have hop : f.operation? text = some (.execute "terra1contract" (.obj [("a", .null),
      ("b", .arr [.obj [("c", .str "A"), ("d", .int 1)]])]) []) := by
    rw [Operation.Frame.operation?, hmsg, Option.map_some]
  obtain ⟨hequal, _⟩ := hsame text text' halike
  exact ⟨halike, hequal, _, _, hop, hequal ▸ hop, hordered text _ hop, rfl,
    hkeys _ _ (hordered text _ hop) rfl⟩

end Proofs

end TxDispatch
