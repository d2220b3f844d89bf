import SessionKeeper.Json.Print
import SessionKeeper.Rehearsal
import SessionKeeper.Service.Routes
import SessionKeeper.Settings.Cache
import SessionKeeper.Timetable.Loop
import SessionKeeper.Proofs.Action
import SessionKeeper.Proofs.Checked
import SessionKeeper.Proofs.Circuit.Entry
import SessionKeeper.Proofs.Circuit.History
import SessionKeeper.Proofs.Circuit.Retry
import SessionKeeper.Proofs.Circuit.Budget
import SessionKeeper.Proofs.Circuit.Independence
import SessionKeeper.Proofs.Scope
import SessionKeeper.Proofs.Circuit.Keys
import SessionKeeper.Proofs.Pass.Accounting
import SessionKeeper.Proofs.Pass.Justified
import SessionKeeper.Proofs.Pass.Run
import SessionKeeper.Proofs.Pass.Budget
import SessionKeeper.Proofs.Workspace.Name
import SessionKeeper.Proofs.Workspace.Length
import SessionKeeper.Proofs.Workspace.Parts
import SessionKeeper.Proofs.Template.Choice
import SessionKeeper.Proofs.Timetable.Loop
import SessionKeeper.Proofs.Timetable.Life
import SessionKeeper.Proofs.Pass.Owned
import SessionKeeper.Proofs.Pass.Shortcut
import SessionKeeper.Proofs.Pass.Once
import SessionKeeper.Proofs.Creation.Stages
import SessionKeeper.Proofs.Pass.Unrecorded
import SessionKeeper.Proofs.Creation.Shown
import SessionKeeper.Proofs.Creation.Apart
import SessionKeeper.Proofs.Pass.Trials
import SessionKeeper.Proofs.Pass.Course
import SessionKeeper.Proofs.Pass.Starts
import SessionKeeper.Proofs.Pass.Lifecycle
import SessionKeeper.Proofs.Pass.Updates
import SessionKeeper.Proofs.Pass.FirstStart
import SessionKeeper.Proofs.Pass.Steady
import SessionKeeper.Proofs.Pass.Neighbours
import SessionKeeper.Proofs.Pass.Interleaving
import SessionKeeper.Proofs.Pass.Pruning
import SessionKeeper.Proofs.Provider.Talk
import SessionKeeper.Proofs.Answers
import SessionKeeper.Proofs.Provider.Token
import SessionKeeper.Proofs.Provider.Pages
import SessionKeeper.Proofs.Provider.Failures
import SessionKeeper.Proofs.Provider.Listing
import SessionKeeper.Proofs.Provider.Catalogue
import SessionKeeper.Proofs.Provider.Making
import SessionKeeper.Proofs.Creation.Single
import SessionKeeper.Proofs.Circuit.Sending
import SessionKeeper.Proofs.Pass.Restart
import SessionKeeper.Proofs.Registry.Update
import SessionKeeper.Proofs.Registry.Collections
import SessionKeeper.Proofs.Settings.BaseUrl
import SessionKeeper.Proofs.Settings.Layers
import SessionKeeper.Proofs.Service.Lifespan
import SessionKeeper.Proofs.Aim
import SessionKeeper.Proofs.Registry.Models
import SessionKeeper.Proofs.Workspace.Carried
import SessionKeeper.Proofs.Workspace.Partition
