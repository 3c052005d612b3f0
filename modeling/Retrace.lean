import Retrace.Artifact
import Retrace.Context
import Retrace.Directive
import Retrace.Frame
import Retrace.MapLocation
import Retrace.Main
import Retrace.Session
import Retrace.Settings.Source
import Retrace.SourceMap.Basic
import Retrace.Proofs.SourceMap.Lookup
import Retrace.Proofs.SourceMap.RoundTrip
import Retrace.Proofs.Tracer.CacheTransparency
import Retrace.Proofs.Tracer.Course
import Retrace.Proofs.Tracer.Releases
import Retrace.Proofs.Tracer.FailSoft
import Retrace.Proofs.Tracer.InlineMaps
import Retrace.Proofs.Tracer.Coherence
import Retrace.Proofs.Cache.Recency
import Retrace.Proofs.Tracer.Overruns
import Retrace.Proofs.CommandLine.Run
import Retrace.Proofs.Cache.Twins
import Retrace.Proofs.Tracer.Lockstep
import Retrace.Proofs.Tracer.Replay
import Retrace.Proofs.Artifact.Location
import Retrace.Proofs.Artifact.KeyText
import Retrace.Proofs.Tracer.Loads
import Retrace.Proofs.Tracer.StoreTransparency
import Retrace.Proofs.Tracer.WriteBack
import Retrace.Proofs.Cache.Lasting
import Retrace.Proofs.Store.Isolation
import Retrace.Proofs.Tracer.BrokenMaps
import Retrace.Proofs.Tracer.FetchOnce
import Retrace.Proofs.Directive.Appended
import Retrace.Proofs.Cache.Changes
import Retrace.Proofs.Store.Optional
import Retrace.Proofs.Tracer.Invariants
import Retrace.Proofs.Tracer.LostFetch
import Retrace.Proofs.SourceMap.Numerals
import Retrace.Proofs.SourceMap.LeftToRight
import Retrace.Proofs.SourceMap.LineView
import Retrace.Proofs.SourceMap.Words
import Retrace.Proofs.Directive.Trailing
import Retrace.Proofs.MapLocation.DataUrls
import Retrace.Proofs.MapLocation.Web
import Retrace.Proofs.SourceMap.SourceRoot
import Retrace.Proofs.Context.Window
import Retrace.Proofs.Fetch.SizeLimit
import Retrace.Proofs.Settings.Sources
import Retrace.Proofs.CommandLine.ContextLines
import Retrace.Proofs.SourceMap.BadCharacter
