import SiteSpiders.Crawl.Clock
import SiteSpiders.Dictionary.Spider
import SiteSpiders.Http.Header
import SiteSpiders.Jobs.Spider
import SiteSpiders.Json.Reader
import SiteSpiders.Movies.Spider
import SiteSpiders.Scripted
import SiteSpiders.Settings
import SiteSpiders.Sounds.Spider
import SiteSpiders.Stats.Summary
import SiteSpiders.Proofs.Crawl.Run
import SiteSpiders.Proofs.Crawl.Dispatch
import SiteSpiders.Proofs.Crawl.Visits
import SiteSpiders.Proofs.Crawl.Clock
import SiteSpiders.Proofs.Crawl.Pages
import SiteSpiders.Proofs.Dictionary.Keeping
import SiteSpiders.Proofs.Crawl.Ending
import SiteSpiders.Proofs.Dictionary.Steady
import SiteSpiders.Proofs.Dictionary.Confluence
import SiteSpiders.Proofs.Url.HostText
import SiteSpiders.Proofs.Url.Identity
import SiteSpiders.Proofs.Url.Reading
import SiteSpiders.Proofs.Text.Ascii
import SiteSpiders.Proofs.Url.Punycode
import SiteSpiders.Proofs.Url.DomainText
import SiteSpiders.Proofs.Url.HostReading
import SiteSpiders.Proofs.Retry.History
import SiteSpiders.Proofs.Crawl.Fetches
import SiteSpiders.Proofs.Crawl.Halting
import SiteSpiders.Proofs.Crawl.BreadthFirst
import SiteSpiders.Proofs.Crawl.Saturation
import SiteSpiders.Proofs.Crawl.Growth
import SiteSpiders.Proofs.Dictionary.Protocol
import SiteSpiders.Proofs.Dictionary.Checks
import SiteSpiders.Proofs.Dictionary.Rerun
import SiteSpiders.Proofs.Retry.Labels
import SiteSpiders.Proofs.Crawl.Ledger
import SiteSpiders.Proofs.Crawl.Returns
import SiteSpiders.Proofs.Crawl.Isolation
import SiteSpiders.Proofs.Dictionary.Calls
import SiteSpiders.Proofs.Dictionary.Failures
import SiteSpiders.Proofs.Storage.Records
import SiteSpiders.Proofs.Movies.Provenance
import SiteSpiders.Proofs.Dictionary.Table
import SiteSpiders.Proofs.Storage.Framing
import SiteSpiders.Proofs.Storage.Register
import SiteSpiders.Proofs.Storage.Agreement
import SiteSpiders.Proofs.Sounds.Pager
import SiteSpiders.Proofs.Sounds.Trail
import SiteSpiders.Proofs.Text.Blank
import SiteSpiders.Proofs.Text.Cleaning
import SiteSpiders.Proofs.Text.Cutting
import SiteSpiders.Proofs.Dictionary.Meanings
import SiteSpiders.Proofs.Dictionary.Fields
import SiteSpiders.Proofs.Pattern.Preferred
import SiteSpiders.Proofs.Movies.Downloads
import SiteSpiders.Proofs.Crawl.Course
import SiteSpiders.Proofs.Url.AuthorityReading
import SiteSpiders.Proofs.Url.PathReading
import SiteSpiders.Proofs.Url.Plain
import SiteSpiders.Proofs.Pattern.Language
import SiteSpiders.Proofs.Dictionary.Groups
import SiteSpiders.Proofs.Dictionary.Listing
import SiteSpiders.Proofs.Movies.Division
import SiteSpiders.Proofs.Stats.Average
import SiteSpiders.Proofs.Crawl.Domains
import SiteSpiders.Proofs.Settings
import SiteSpiders.Proofs.Retry.Caps
import SiteSpiders.Proofs.Retry.Range
import SiteSpiders.Proofs.Retry.Mentions
