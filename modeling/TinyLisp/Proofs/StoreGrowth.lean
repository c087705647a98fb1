import Mathlib.Logic.Relation
import Mathlib.Data.List.Nodup
import TinyLisp.Eval.Store

/-!
# How the store grows
-/

namespace TinyLisp

namespace Store

variable {st : Store} {f g : FrameId} {name : String} {v : Value}

theorem size_bind : (st.bind f name v).frames.size = st.frames.size := by
  simp [bind]

theorem bindings_bind_self (h : f < st.frames.size) :
    (st.bind f name v).bindings f = (name, v) :: st.bindings f := by
  simp only [bind, bindings, Array.getElem?_modify, if_true, Array.getElem?_eq_getElem h,
    Option.map_some, Option.getD_some]

theorem bindings_bind_of_ne (h : f ≠ g) : (st.bind f name v).bindings g = st.bindings g := by
  simp [bind, bindings, Array.getElem?_modify, h]

theorem bindings_push_of_lt {b : Bindings} (h : g < st.frames.size) :
    ({ st with frames := st.frames.push b } : Store).bindings g = st.bindings g := by
  simp [bindings, Array.getElem?_push_lt h, Array.getElem?_eq_getElem h]

theorem bindings_push_size {b : Bindings} :
    ({ st with frames := st.frames.push b } : Store).bindings st.frames.size = b := by
  simp [bindings]

theorem extend_eq (kvs : List (String × Value)) :
    st.extend f kvs = ({ st with frames := st.frames.push (kvs.reverse ++ st.bindings f) },
      st.frames.size) := by
  simp [extend]

theorem lookup_eq_none_iff : st.lookup f name = none ↔ name ∉ (st.bindings f).map Prod.fst := by
  simp only [lookup, Option.map_eq_none_iff, List.find?_eq_none, beq_iff_eq, List.mem_map,
    not_exists, not_and]

/-- A frame a run that started in frame `env` from the store `st` may bind in: `env` itself, or
a frame the run made. -/
def Local (st : Store) (env f : FrameId) : Prop := f = env ∨ st.frames.size ≤ f

theorem Local.of_le {st st' : Store} {env f : FrameId} (hs : st.frames.size ≤ st'.frames.size)
    (h : st'.Local env f) : st.Local env f :=
  h.imp_right (Nat.le_trans hs)

theorem Local.of_local {st st' : Store} {env g f : FrameId} (hg : st.Local env g)
    (hs : st.frames.size ≤ st'.frames.size) (h : st'.Local g f) : st.Local env f := by
  rcases h with rfl | h
  · exact hg
  · exact .inr (Nat.le_trans hs h)

/-- One change a run makes to the store: a binding for a name not yet bound in a frame `may`
allows, a new frame, or a new serial number. -/
inductive Step (may : FrameId → Prop) : Store → Store → Prop
  | bind {st : Store} {f : FrameId} {name : String} (v : Value) :
      may f → st.lookup f name = none → Step may st (st.bind f name v)
  | push {st : Store} (b : Bindings) : Step may st { st with frames := st.frames.push b }
  | serial {st : Store} : Step may st { st with closures := st.closures + 1 }

abbrev Steps (may : FrameId → Prop) : Store → Store → Prop := Relation.ReflTransGen (Step may)

theorem Step.mono {may may' : FrameId → Prop} (h : ∀ f, may f → may' f) {st st' : Store}
    (hs : Step may st st') : Step may' st st' := by
  cases hs with
  | bind v hm hn => exact .bind v (h _ hm) hn
  | push b => exact .push b
  | serial => exact .serial

theorem Steps.mono {may may' : FrameId → Prop} (h : ∀ f, may f → may' f) {st st' : Store}
    (hs : Steps may st st') : Steps may' st st' :=
  Relation.ReflTransGen.mono (fun _ _ => Step.mono h) _ _ hs

/-- Bindings `new` put in front of `old`, each for a name bound neither in `old` nor by another
of them. -/
def FreshOver (new old : Bindings) : Prop :=
  (new.map Prod.fst).Nodup ∧ (new.map Prod.fst).Disjoint (old.map Prod.fst)

theorem FreshOver.nil (old : Bindings) : FreshOver [] old := by
  simp [FreshOver]

theorem FreshOver.append {new new' old : Bindings} (h' : FreshOver new' (new ++ old))
    (h : FreshOver new old) : FreshOver (new' ++ new) old := by
  obtain ⟨hn', hd'⟩ := h'
  obtain ⟨hn, hd⟩ := h
  simp only [List.map_append, List.disjoint_append_right] at hd'
  refine ⟨?_, ?_⟩
  · rw [List.map_append, List.nodup_append]
    exact ⟨hn', hn, fun a ha b hb hab => hd'.1 ha (hab ▸ hb)⟩
  · rw [List.map_append, List.disjoint_append_left]
    exact ⟨hd'.2, hd⟩

/-- What a run does to the frames there before it: each keeps its bindings and gets fresh ones
in front, in a frame `may` allows. -/
structure Grows (may : FrameId → Prop) (st st' : Store) : Prop where
  size_le : st.frames.size ≤ st'.frames.size
  frame : ∀ f < st.frames.size, ∃ new, st'.bindings f = new ++ st.bindings f ∧
    (new ≠ [] → may f) ∧ FreshOver new (st.bindings f)

theorem Grows.of_frames_eq {may : FrameId → Prop} {st st' : Store} (h : st'.frames = st.frames) :
    Grows may st st' := by
  refine ⟨Nat.le_of_eq (congrArg Array.size h.symm), fun f _ => ⟨[], ?_, fun h => absurd rfl h,
    FreshOver.nil _⟩⟩
  rw [bindings, bindings, h, List.nil_append]

theorem Grows.refl (may : FrameId → Prop) (st : Store) : Grows may st st :=
  .of_frames_eq rfl

theorem Grows.trans {may : FrameId → Prop} {st₁ st₂ st₃ : Store} (h₁ : Grows may st₁ st₂)
    (h₂ : Grows may st₂ st₃) : Grows may st₁ st₃ := by
  refine ⟨Nat.le_trans h₁.size_le h₂.size_le, fun f hf => ?_⟩
  obtain ⟨new, he, hm, hfresh⟩ := h₁.frame f hf
  obtain ⟨new', he', hm', hfresh'⟩ := h₂.frame f (Nat.lt_of_lt_of_le hf h₁.size_le)
  rw [he] at he' hfresh'
  refine ⟨new' ++ new, by rw [he', List.append_assoc], fun hne => ?_, hfresh'.append hfresh⟩
  by_cases h : new' = []
  · subst h
    exact hm hne
  · exact hm' h

theorem Step.grows {may : FrameId → Prop} {st st' : Store} (h : Step may st st') :
    Grows may st st' := by
  cases h with
  | bind v hm hn =>
    rename_i f name
    refine ⟨Nat.le_of_eq size_bind.symm, fun g hg => ?_⟩
    by_cases hfg : f = g
    · subst hfg
      refine ⟨[(name, v)], bindings_bind_self hg, fun _ => hm, ?_⟩
      simpa [FreshOver] using lookup_eq_none_iff.1 hn
    · exact ⟨[], bindings_bind_of_ne hfg, fun h => absurd rfl h, FreshOver.nil _⟩
  | push b =>
    refine ⟨by simp, fun g hg => ⟨[], bindings_push_of_lt hg, fun h => absurd rfl h,
      FreshOver.nil _⟩⟩
  | serial => exact .of_frames_eq rfl

theorem Steps.grows {may : FrameId → Prop} {st st' : Store} (h : Steps may st st') :
    Grows may st st' := by
  induction h with
  | refl => exact Grows.refl may st
  | tail _ hs ih => exact ih.trans hs.grows

theorem Grows.of_local {env : FrameId} {st st' : Store} (h : Grows (st.Local env) st st') :
    Grows (· = env) st st' := by
  refine ⟨h.size_le, fun f hf => ?_⟩
  obtain ⟨new, he, hm, hfresh⟩ := h.frame f hf
  exact ⟨new, he, fun hne => (hm hne).resolve_right (Nat.not_le.2 hf), hfresh⟩

theorem Steps.size_le {may : FrameId → Prop} {st st' : Store} (h : Steps may st st') :
    st.frames.size ≤ st'.frames.size :=
  h.grows.size_le

theorem Grows.bindings_eq {may : FrameId → Prop} {st st' : Store} (h : Grows may st st')
    (hf : f < st.frames.size) (hm : ¬may f) : st'.bindings f = st.bindings f := by
  obtain ⟨new, he, hmay, -⟩ := h.frame f hf
  by_cases hn : new = []
  · rw [he, hn, List.nil_append]
  · exact absurd (hmay hn) hm

theorem Grows.lookup_eq {may : FrameId → Prop} {st st' : Store} (h : Grows may st st')
    (hf : f < st.frames.size) (hb : st.lookup f name = some v) : st'.lookup f name = some v := by
  obtain ⟨new, he, -, -, hd⟩ := h.frame f hf
  obtain ⟨p, hp, -⟩ := Option.map_eq_some_iff.1 hb
  have hpn : p.1 = name := by simpa using List.find?_some hp
  have hold : name ∈ (st.bindings f).map Prod.fst :=
    List.mem_map.2 ⟨p, List.mem_of_find?_eq_some hp, hpn⟩
  -- the name is bound before the run, so none of the new bindings is for it
  have hnew : new.find? (·.1 == name) = none :=
    List.find?_eq_none.2 fun q hq hqn => hd (List.mem_map.2 ⟨q, hq, by simpa using hqn⟩) hold
  rw [lookup, he, List.find?_append, hnew, Option.none_or]
  exact hb

end Store

end TinyLisp
