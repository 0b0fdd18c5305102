import ContentBlocker.Main
import ContentBlocker.Proofs.Filter.Translation
import ContentBlocker.Proofs.Loader.Agreement
import ContentBlocker.Proofs.Filter.Tidying
import ContentBlocker.Proofs.Loader.Results
import ContentBlocker.Proofs.Disk.Directories
import ContentBlocker.Proofs.Disk.CacheWrites
import ContentBlocker.Proofs.Loader.Interleaving
import ContentBlocker.Proofs.Registry.Histories
import ContentBlocker.Proofs.Source.Files
import ContentBlocker.Proofs.Loader.Reuse
import ContentBlocker.Proofs.Disk.CacheScan
import ContentBlocker.Proofs.Filter.Order
import ContentBlocker.Proofs.Loader.Status
import ContentBlocker.Proofs.Disk.Removing
import ContentBlocker.Proofs.Loader.Clearing
import ContentBlocker.Proofs.Disk.CacheMap
import ContentBlocker.Proofs.Registry.Contract
import ContentBlocker.Proofs.Filter.CatchAll
import ContentBlocker.Proofs.Filter.DomainRules
import ContentBlocker.Proofs.Filter.Expressions
import ContentBlocker.Proofs.Filter.Narrowing
import ContentBlocker.Proofs.Filter.OptionNames
import ContentBlocker.Proofs.Filter.Sites
import ContentBlocker.Proofs.Filter.Slicing
import ContentBlocker.Proofs.Filter.Spelling
import ContentBlocker.Proofs.Filter.Layout
