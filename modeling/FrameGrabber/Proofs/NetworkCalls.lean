import FrameGrabber.Sim.Network

/-!
# What a network answers on a connection

The calls on a connection go to its link and leave everything else alone, the clock
and the streams included. So what they do can be said once the link is known: asking
answers from its registers and changes nothing, and a write is refused and changes
nothing, or replaces the link by one with other registers.
-/

namespace FrameGrabber
namespace Network

variable {c : ConnectionId} {l : Link} {n : Network}

/-- The network with another link for the connection. -/
def putLink (c : ConnectionId) (l : Link) (n : Network) : Network :=
  { n with links := n.links.set c l }

theorem link_putLink (hl : n.links[c]? = some l) (l' : Link) :
    (n.putLink c l').links[c]? = some l' := by
  obtain ⟨hlt, -⟩ := List.getElem?_eq_some_iff.1 hl
  exact List.getElem?_set_self hlt

theorem putLink_self (hl : n.links[c]? = some l) : n.putLink c l = n := by
  obtain ⟨hlt, hget⟩ := List.getElem?_eq_some_iff.1 hl
  unfold putLink
  rw [← hget, List.set_getElem_self]

theorem onLink_at {α : Type} (hl : n.links[c]? = some l)
    (f : Link → Except CameraError (α × Link)) :
    onLink c f n = match f l with
      | .error e => (.error e, n)
      | .ok (a, l) => (.ok a, n.putLink c l) := by
  simp only [onLink, hl]
  rcases f l with _ | ⟨a, l'⟩ <;> rfl

/-- A call that leaves the link as it is leaves the network as it is. -/
theorem onLink_asked {α : Type} {f : Link → Except CameraError (α × Link)} {a : α}
    (hl : n.links[c]? = some l) (hf : f l = .ok (a, l)) : onLink c f n = (.ok a, n) := by
  rw [onLink_at hl, hf]
  exact congrArg (Prod.mk _) (putLink_self hl)

theorem getFeature_at (hl : n.links[c]? = some l) (f : Feature) :
    Network.transport.getFeature c f.name n = (.ok (l.registers.read l.camera f), n) :=
  onLink_asked hl (by rw [Feature.ofName?_name])

theorem featureOptions_at (hl : n.links[c]? = some l) :
    Network.transport.featureOptions c Feature.pixelFormat.name n =
      (.ok (l.camera.formats.map PixelFormat.name), n) := by
  show Network.featureOptions c Feature.pixelFormat.name n = _
  rw [featureOptions, Feature.ofName?_name]
  exact onLink_asked hl rfl

theorem payloadSize_at (hl : n.links[c]? = some l) :
    Network.transport.payloadSize c n = (.ok l.registers.payloadSize.toNat, n) := by
  show Network.payloadSize c n = _
  exact onLink_asked hl rfl

theorem overflows_at (hl : n.links[c]? = some l) :
    Network.transport.overflows c n = (l.registers.payloadSize? .checked).isNone := by
  show Network.overflows c n = _
  rw [overflows, hl]
  rfl

theorem setFeature_at (hl : n.links[c]? = some l) (f : Feature) (v : FeatureValue) :
    Network.transport.setFeature c f.name v n =
      match l.registers.write l.camera l.acquiring f v with
      | .ok registers => (.ok (), n.putLink c { l with registers })
      | .error e => (.error e, n) := by
  show Network.onLink c _ n = _
  rw [onLink_at hl, Feature.ofName?_name]
  simp only
  rcases l.registers.write l.camera l.acquiring f v with _ | registers <;> rfl

theorem unknown_at (hl : n.links[c]? = some l) {name : String}
    (hn : Feature.ofName? name = none) (v : FeatureValue) :
    Network.transport.getFeature c name n = (.error (.featureUnsupported name), n) ∧
      Network.transport.setFeature c name v n = (.error (.featureUnsupported name), n) := by
  constructor
  · show Network.onLink c _ n = _
    rw [onLink_at hl, hn]
  · show Network.onLink c _ n = _
    rw [onLink_at hl, hn]

/-- What was written by name: nothing, or one feature of the link. -/
theorem setFeature_cases (hl : n.links[c]? = some l) (name : String) (v : FeatureValue) :
    (∃ e, Network.transport.setFeature c name v n = (.error e, n)) ∨
      ∃ f r, name = f.name ∧ l.registers.write l.camera l.acquiring f v = .ok r ∧
        Network.transport.setFeature c name v n =
          (.ok (), n.putLink c { l with registers := r }) := by
  cases hn : Feature.ofName? name with
  | none => exact .inl ⟨_, (unknown_at hl hn v).2⟩
  | some f =>
      have hset := setFeature_at hl f v
      rw [Feature.eq_name_of_ofName? hn]
      cases hw : l.registers.write l.camera l.acquiring f v with
      | error e =>
          rw [hw] at hset
          exact .inl ⟨e, hset⟩
      | ok r =>
          rw [hw] at hset
          exact .inr ⟨f, r, rfl, hw, hset⟩

end Network
end FrameGrabber
