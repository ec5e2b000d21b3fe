import Introspect.Accessor.Direct
import Introspect.Config.Files
import Introspect.Float64.Hex
import Introspect.Outline.Request
import Introspect.Outline.Settings
import Introspect.Proofs.Accessor.Atomic
import Introspect.Proofs.Accessor.Copying
import Introspect.Proofs.Accessor.Inherited
import Introspect.Proofs.Accessor.Marshalling
import Introspect.Proofs.Accessor.Pairing
import Introspect.Proofs.Accessor.RoundTrip
import Introspect.Proofs.Accessor.Safety
import Introspect.Proofs.Accessor.Transparency
import Introspect.Proofs.Cache.Balance
import Introspect.Proofs.Cache.SoftLimit
import Introspect.Proofs.Construction.Calls
import Introspect.Proofs.Construction.Spare
import Introspect.Proofs.Conversion.Fit
import Introspect.Proofs.Conversion.Lossless
import Introspect.Proofs.Conversion.Members
import Introspect.Proofs.Conversion.Narrowing
import Introspect.Proofs.Dispatch.Linked
import Introspect.Proofs.Dispatch.Override
import Introspect.Proofs.Flags.NameMatching
import Introspect.Proofs.Hash.Discriminators
import Introspect.Proofs.Hash.Positions
import Introspect.Proofs.Reflector.Operations
import Introspect.Proofs.Registry.ArrayNames
import Introspect.Proofs.Registry.Assignability
import Introspect.Proofs.Registry.Closure
import Introspect.Proofs.Registry.Relations
import Introspect.Proofs.Registry.Search
import Introspect.Proofs.Resolver.ListedProperties
import Introspect.Proofs.Resolver.Reordering
import Introspect.Proofs.Resolver.Selectors
import Introspect.Proofs.World.Boxing
import Introspect.Proofs.World.Exclusion
import Introspect.Sample.Bodies
import Introspect.Sample.Family
import Introspect.Sample.Pantry
import Introspect.Value.Text
