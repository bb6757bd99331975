import Mathlib.Logic.Relation
import Wiring.Proofs.Compilation.Draining
import Wiring.Proofs.Compilation.Gathering

/-! # Which factories are generated

Draining the queue goes round by round, and no session admits rounds without end. The factories that
are generated are the least set that holds what is queued and what one of them asks for, apart from
what is bound beforehand. They are generated in the order in which they are queued first, whether
that happens before or during the draining.

An item is skipped because of its descriptor, so names have to be plain for the order.

Main statements: `Session.wellFounded_round`, `Session.ends_drain` and
`Session.generates_of_drain`.
-/

namespace Wiring

open Contribution

section Least

/-! ## The least set -/

/-- The least set of interfaces that holds what is queued and what the factory of one of them asks
for, apart from what is bound. -/
inductive Catalog.Generated (catalog : Catalog) (queued : List QualifiedType) (bound : List String) :
    QualifiedType → Prop
  | queued {item : QualifiedType} (member : item ∈ queued) (unbound : item.descriptor ∉ bound) :
    Generated catalog queued bound item
  | asked {interface item : QualifiedType} {part : Contribution}
    (generated : Generated catalog queued bound interface) (of : OfFactory catalog interface part)
    (member : item ∈ part.queue) (unbound : item.descriptor ∉ bound) :
    Generated catalog queued bound item

namespace Catalog.Generated

variable {catalog : Catalog} {queued others : List QualifiedType} {bound : List String}
  {item : QualifiedType}

private theorem plain (plainCatalog : catalog.Plain) (plainQueue : ∀ item ∈ queued, item.Plain)
    (generated : catalog.Generated queued bound item) : item.Plain := by
  induction generated with
  | queued member _ => exact plainQueue _ member
  | asked _ of member _ ih => exact (of.plain plainCatalog ih).queue _ member

/-- Queues that differ in bound items only lead to the same. -/
theorem of_filter_eq
    (same : queued.filter (·.isUnbound bound) = others.filter (·.isUnbound bound))
    (generated : catalog.Generated queued bound item) : catalog.Generated others bound item := by
  induction generated with
  | @queued item member unbound =>
    have kept : item ∈ others.filter (·.isUnbound bound) :=
      same ▸ List.mem_filter.mpr ⟨member, QualifiedType.isUnbound_iff.mpr unbound⟩
    exact .queued (List.mem_of_mem_filter kept) unbound
  | asked _ of member unbound ih => exact .asked ih of member unbound

end Catalog.Generated

end Least

namespace Session

variable {catalog : Catalog} {session middle next : Session} {interface item : QualifiedType}
  {rest made : List QualifiedType} {part : Contribution} {parts : List Contribution}

section Rounds

/-! ## Rounds -/

/-- The head of the queue is skipped or implemented. -/
def Round (catalog : Catalog) (session next : Session) : Prop :=
  ∃ interface rest, session.pending = interface :: rest ∧
    session.dequeued.bindFactory catalog interface = .ok next

/-- No session admits rounds without end, although rounds may queue factories. -/
theorem wellFounded_round (catalog : Catalog) :
    WellFounded fun next session => Round catalog session next := by
  have closer := InvImage.wf
    (fun session : Session =>
      (session.foreign catalog, session.unbound catalog, session.pending.length))
    (Prod.lex ⟨_, Nat.lt_wfRel.wf⟩ (Prod.lex ⟨_, Nat.lt_wfRel.wf⟩ ⟨_, Nat.lt_wfRel.wf⟩)).wf
  refine Subrelation.wf ?_ closer
  rintro next session ⟨interface, rest, queue, done⟩
  exact bindFactory_closer queue done

/-- Rounds lead from the session to the outcome: nothing is queued any more, or the next round
fails. -/
def Ends (catalog : Catalog) (session : Session) : Except CompileError Session → Prop
  | .ok next => Relation.ReflTransGen (Round catalog) session next ∧ next.pending = []
  | .error error => ∃ last interface rest, Relation.ReflTransGen (Round catalog) session last ∧
      last.pending = interface :: rest ∧ last.dequeued.bindFactory catalog interface = .error error

private theorem Ends.head {outcome : Except CompileError Session} (round : Round catalog session middle)
    (ends : Ends catalog middle outcome) : Ends catalog session outcome := by
  cases outcome with
  | ok next => exact ⟨.head round ends.1, ends.2⟩
  | error error =>
    obtain ⟨last, interface, rest, rounds, failing⟩ := ends
    exact ⟨last, interface, rest, .head round rounds, failing⟩

/-- Draining comes to its end by rounds. -/
theorem ends_drain (catalog : Catalog) (session : Session) :
    Ends catalog session (session.drain catalog) := by
  fun_induction drain catalog session with
  | case1 session empty => exact ⟨.refl, empty⟩
  | case2 session interface rest queue error failed =>
    exact ⟨session, interface, rest, .refl, queue, failed⟩
  | case3 session interface rest queue middle done ih => exact ih.head ⟨interface, rest, queue, done⟩

end Rounds

section Generating

/-! ## What is generated by draining -/

/-- Draining the session generates a factory for each of the interfaces: those that are queued, at
first or later, and that are not bound beforehand. -/
structure Generates (catalog : Catalog) (session : Session) (made : List QualifiedType)
    (parts : List Contribution) (next : Session) : Prop where
  each : List.Forall₂ (OfFactory catalog) made parts
  gathers : session.Gathers (join parts) next
  order : made =
    ((session.pending ++ (join parts).queue).filter (·.isUnbound session.bound)).eraseDups
  least : ∀ item ∈ made, catalog.Generated session.pending session.bound item

/-- Without its head, which is bound, a queue holds the same unbound items. -/
theorem filter_dequeued {texts : List String} (queue : session.pending = interface :: rest)
    (bound : interface.descriptor ∈ texts) :
    session.dequeued.pending.filter (·.isUnbound texts) =
      session.pending.filter (·.isUnbound texts) := by
  have skipped : ¬ interface.isUnbound texts = true := fun unbound =>
    QualifiedType.isUnbound_iff.mp unbound bound
  rw [dequeued, queue, List.filter_cons_of_neg skipped]
  rfl

theorem Gathers.of_dequeued (queue : session.pending = interface :: rest)
    (bound : interface.descriptor ∈ next.bound) (gathers : session.dequeued.Gathers part next) :
    session.Gathers part next where
  bound := gathers.bound
  needed := gathers.needed
  pending texts covered := by
    rw [gathers.pending texts covered, List.filter_append, List.filter_append,
      filter_dequeued queue (covered bound)]
  values := gathers.values
  factories := gathers.factories

/-- A round that skips the head of the queue generates nothing. -/
theorem Generates.skip (queue : session.pending = interface :: rest)
    (bound : interface.descriptor ∈ session.bound)
    (generates : Generates catalog session.dequeued made parts next) :
    Generates catalog session made parts next where
  each := generates.each
  gathers := by
    refine .of_dequeued queue ?_ generates.gathers
    rw [generates.gathers.bound]
    exact List.mem_append_left _ bound
  order := by
    have same : session.dequeued.bound = session.bound := rfl
    rw [generates.order, same, List.filter_append, List.filter_append, filter_dequeued queue bound]
  least item member := (generates.least item member).of_filter_eq (filter_dequeued queue bound)

/-- With a plain catalog and a plain queue nothing but plain types is generated. -/
theorem Generates.plain (generates : Generates catalog session made parts next)
    (plainCatalog : catalog.Plain) (plain : ∀ item ∈ session.pending, item.Plain) :
    (∀ item ∈ made, item.Plain) ∧ (join parts).Plain := by
  have plainMade : ∀ item ∈ made, item.Plain := fun item member =>
    (generates.least item member).plain plainCatalog plain
  exact ⟨plainMade, plain_join generates.each fun interface member _ of =>
    of.plain plainCatalog (plainMade interface member)⟩

/-- What a later session generates is generated from the start if its queue was left by a factory. -/
theorem generated_of_gathers (generated : catalog.Generated session.pending session.bound interface)
    (of : OfFactory catalog interface part) (gathers : session.dequeued.Gathers part middle)
    (later : catalog.Generated middle.pending middle.bound item) :
    catalog.Generated session.pending session.bound item := by
  have earlier : ∀ text, text ∉ middle.bound → text ∉ session.bound := by
    intro text unbound bound
    apply unbound
    rw [gathers.bound]
    exact List.mem_append_left _ bound
  induction later with
  | @queued item member unbound =>
    have kept : item ∈ middle.pending.filter (·.isUnbound middle.bound) :=
      List.mem_filter.mpr ⟨member, QualifiedType.isUnbound_iff.mpr unbound⟩
    rw [gathers.pending _ (List.Subset.refl _)] at kept
    rcases List.mem_append.mp (List.mem_of_mem_filter kept) with before | asked
    · exact .queued (List.mem_of_mem_tail before) (earlier _ unbound)
    · exact .asked generated of asked (earlier _ unbound)
  | asked _ of member unbound ih => exact .asked ih of member (earlier _ unbound)

/-- A round that implements the head of the queue generates its factory before all others. -/
theorem Generates.make (plainCatalog : catalog.Plain) (plain : ∀ item ∈ session.pending, item.Plain)
    (queue : session.pending = interface :: rest) (fresh : interface.descriptor ∉ session.bound)
    (of : OfFactory catalog interface part) (gathers : session.dequeued.Gathers part middle)
    (plainMiddle : ∀ item ∈ middle.pending, item.Plain)
    (generates : Generates catalog middle made parts next) :
    Generates catalog session (interface :: made) (part :: parts) next := by
  have bound : middle.bound = session.bound ++ [interface.descriptor] := by
    rw [gathers.bound, of.bound]
    rfl
  have plainInterface : interface.Plain := plain interface (queue ▸ List.mem_cons_self)
  have generated : catalog.Generated session.pending session.bound interface :=
    .queued (queue ▸ List.mem_cons_self) fresh
  refine ⟨.cons of generates.each, ?_, ?_, List.forall_mem_cons.mpr ⟨generated, ?_⟩⟩
  · have now : interface.descriptor ∈ middle.bound := by
      rw [bound]
      exact List.mem_append_right _ List.mem_cons_self
    exact (gathers.of_dequeued queue now).trans generates.gathers
  · have plainAsked := (generates.plain plainCatalog plainMiddle).2.queue
    have kept : (middle.pending ++ (join parts).queue).filter (·.isUnbound middle.bound) =
        (rest ++ (join (part :: parts)).queue).filter fun item =>
          !(item == interface) && item.isUnbound session.bound := by
      have left : session.dequeued.pending = rest := by
        rw [dequeued, queue]
        rfl
      rw [List.filter_append, gathers.pending _ (List.Subset.refl _), ← List.filter_append, left,
        join_cons, append_queue, List.append_assoc, bound]
      refine List.filter_congr fun item member => ?_
      apply QualifiedType.isUnbound_concat _ plainInterface
      rcases List.mem_append.mp member with queued | later
      · exact plain item (queue ▸ List.mem_cons_of_mem _ queued)
      rcases List.mem_append.mp later with asked | later
      · exact (of.plain plainCatalog plainInterface).queue item asked
      · exact plainAsked item later
    rw [generates.order, kept, queue, List.cons_append,
      List.filter_cons_of_pos (QualifiedType.isUnbound_iff.mpr fresh), List.eraseDups_cons,
      List.filter_filter]
  · exact fun item member => generated_of_gathers generated of gathers (generates.least item member)

/-- Draining generates the least set, in the order of the queue. -/
theorem generates_of_drain (plainCatalog : catalog.Plain) (plain : ∀ item ∈ session.pending, item.Plain)
    (done : session.drain catalog = .ok next) :
    ∃ made parts, Generates catalog session made parts next := by
  fun_induction drain catalog session with
  | case1 session empty =>
    cases done
    exact ⟨[], [], .nil, .refl next, by simp [empty, Contribution.queue], List.forall_mem_nil _⟩
  | case2 session interface rest queue error failed => cases done
  | case3 session interface rest queue middle bound ih =>
    have plainRest : ∀ item ∈ session.dequeued.pending, item.Plain :=
      fun item member => plain item (List.mem_of_mem_tail member)
    have plainMiddle := plain_bindFactory plainCatalog bound plainRest
    obtain ⟨made, parts, generates⟩ := ih plainMiddle done
    rcases gathers_bindFactory bound with ⟨known, rfl⟩ | ⟨fresh, part, of, gathers⟩
    · exact ⟨made, parts, generates.skip queue known⟩
    · exact ⟨interface :: made, part :: parts,
        generates.make plainCatalog plain queue fresh of gathers plainMiddle⟩

/-- Whatever belongs to the least set is generated. -/
theorem Generates.complete (generates : Generates catalog session made parts next)
    (generated : catalog.Generated session.pending session.bound item) : item ∈ made := by
  have queued : ∀ item, item ∈ session.pending ++ (join parts).queue →
      item.descriptor ∉ session.bound → item ∈ made := by
    intro item member unbound
    rw [generates.order, List.mem_eraseDups]
    exact List.mem_filter.mpr ⟨member, QualifiedType.isUnbound_iff.mpr unbound⟩
  induction generated with
  | queued member unbound => exact queued _ (List.mem_append_left _ member) unbound
  | @asked interface item part _ of member unbound ih =>
    obtain ⟨brought, listed, of'⟩ := exists_of_forall₂ generates.each ih
    cases of.unique of'
    exact queued item (List.mem_append_right _ (queue_subset_join listed member)) unbound

end Generating

end Session

end Wiring
