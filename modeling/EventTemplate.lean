import EventTemplate.Cache.Concurrent
import EventTemplate.Double.Read
import EventTemplate.Engine.Default
import EventTemplate.Engine.Session
import EventTemplate.Event.Attribute
import EventTemplate.Proofs.Cache.Sound
import EventTemplate.Proofs.Engine.Reachable
import EventTemplate.Proofs.Engine.Stateless
import EventTemplate.Proofs.Engine.Transparent
import EventTemplate.Proofs.Property.Compatible
import EventTemplate.Proofs.Property.Grammar
import EventTemplate.Proofs.Property.Overlong
import EventTemplate.Proofs.Template.Grammar
import EventTemplate.Proofs.Template.Print
import EventTemplate.Proofs.Token.Partition
import EventTemplate.Template.Assembly
import EventTemplate.Template.Show
import EventTemplate.Proofs.Cache.Lookup
import EventTemplate.Proofs.Concurrent.History
import EventTemplate.Proofs.Concurrent.Move
import EventTemplate.Proofs.Concurrent.Invariant
import EventTemplate.Proofs.Concurrent.Request
import EventTemplate.Proofs.Concurrent.Safety
import EventTemplate.Proofs.Event.Bind
import EventTemplate.Proofs.Render.Substitution
import EventTemplate.Proofs.Event.Serialize
import EventTemplate.Proofs.Engine.Revive
import EventTemplate.Proofs.Settings.File
import EventTemplate.Proofs.Engine.Default
import EventTemplate.Proofs.Engine.Failure
import EventTemplate.Proofs.Engine.Fallback
import EventTemplate.Proofs.Problem.Message
import EventTemplate.Proofs.Template.Report
import EventTemplate.Proofs.Template.Insert
import EventTemplate.Proofs.Template.Redesignate
import EventTemplate.Proofs.Render.Positional
import EventTemplate.Proofs.Token.Hole
import EventTemplate.Proofs.Token.Row
import EventTemplate.Proofs.Token.Reading
import EventTemplate.Proofs.Token.Parity
import EventTemplate.Proofs.Cache.Recency
import EventTemplate.Proofs.Cache.History
import EventTemplate.Proofs.Engine.Format
import EventTemplate.Proofs.Engine.Projection
import EventTemplate.Proofs.Event.Position
import EventTemplate.Proofs.Property.Fault
import EventTemplate.Proofs.Template.Fault
import EventTemplate.Proofs.Template.Assembly
import EventTemplate.Proofs.Settings.Written
import EventTemplate.Proofs.Event.Attribute
import EventTemplate.Proofs.Problem.Call
